import VendorRs.MainService.Preferences

/-!
# The navigation bar and the capacitive keys

The device has capacitive keys and can show a navigation bar instead. Which of the two it is to be
follows from the navigation mode and a preference; the system reads it from a property, once, at
boot. `manageNavBar` therefore works on two levels: it writes the persistent property, which counts
at the next boot, and switches the keys at once if the property of this boot already agrees.
Otherwise a reboot is pending, and the keys are left as they are.

The keys are also off in gaming mode, so gaming mode is part of the model. The rest of `MainService`
matters where the service connects: `manageNavBar` comes last, and a preference or a node that is no
number ends the process before it.

`NavOk` is what holds whenever the service is connected: the next boot will be right, and this one
is right unless a reboot is pending.
-/

namespace VendorRs.NavBar

open Java Runs GamingMode

structure State where
  gaming : GamingMode.State
  /-- `qemu.hw.mainkeys`: what the system goes by since it booted. -/
  mainkeys : String
  /-- `persist.qemu.hw.mainkeys`: what `init` makes of it at the next boot. -/
  persistMainkeys : String
  /-- The resource `config_navBarInteractionMode`. -/
  navBarMode : Int
  /-- The preference of that name. -/
  navBarEnabled : Option Bool
  /-- Whether `MainService` is connected. -/
  connected : Bool
  /-- How often the user was told that a reboot is required. -/
  toasts : Nat

/-- What is there before the service is connected for the first time. -/
structure Device extends GamingMode.Device where
  mainkeys : String
  persistMainkeys : String
  navBarMode : Int
  navBarEnabled : Option Bool

def State.initial (d : Device) : State where
  gaming := .initial d.toDevice
  mainkeys := d.mainkeys
  persistMainkeys := d.persistMainkeys
  navBarMode := d.navBarMode
  navBarEnabled := d.navBarEnabled
  connected := false
  toasts := 0

/-- The keys are used, and no navigation bar is shown, unless the property says otherwise. -/
def State.mainKeysEnabled (s : State) : Bool := s.mainkeys = "1" || s.mainkeys = ""

/-! ## The functions -/

/-- What each branch of `manageNavBar` does once the persistent property is written: the keys are
switched, or the user is told to reboot. -/
def applyMainKeys (wanted : Bool) (s : State) : State :=
  let persistMainkeys := if wanted then "1" else "0"
  if s.mainKeysEnabled = wanted then
    { s with
      persistMainkeys := persistMainkeys
      gaming := manageCapacitiveButtons { s.gaming with isCapacitiveButtonsUsed := wanted } }
  else { s with persistMainkeys := persistMainkeys, toasts := s.toasts + 1 }

def manageNavBar (s : State) : State :=
  let navBarEnabled := s.navBarEnabled.getD false
  if s.navBarMode = 0 then
    if navBarEnabled then applyMainKeys false s else applyMainKeys true s
  else if s.navBarMode = 1 then s
  else if s.navBarMode = 2 then applyMainKeys false s
  else s

/-! ## Events -/

/-- The rest of the service when it connects, and what it finds. -/
structure Connection where
  getRafFromNetworkType : Int → Int
  service : MainService.State
  device : MainService.Device

inductive Event where
  /-- An event of gaming mode. The process restarts for both. -/
  | gaming (e : GamingMode.Event) (h : e ≠ .serviceConnected)
  /-- `MainService.onServiceConnected`, which may throw. -/
  | serviceConnected (connection : Connection)
  /-- The preference gets a value, or none, and `mPreferenceListener` is told while the service is
  connected. `onDestroy` leaves it registered, so it may be `told` after that too. -/
  | navBarEnabledChanged (value : Option Bool) (told : Bool)
  /-- The user chooses a navigation mode; `mNavigationModeObserver` is told. -/
  | navigationModeChanged (mode : Int)
  /-- `MainService.onDestroy`. -/
  | destroyed
  /-- The nodes of the drivers hold what the drivers put there. -/
  | rebooted (files : Utils.Files)

/-- What goes with the process besides. -/
def afterGaming (s : State) : GamingMode.Event → State
  | .processRestarted => { s with connected := false }
  | _ => s

/-- The statics and the service are lost. -/
def processRestarted (s : State) : State :=
  { s with
    gaming := { s.gaming with isGamingModeEnabled := false, isCapacitiveButtonsUsed := false }
    connected := false }

/-- What throws takes the process down. -/
def onServiceConnected (connection : Connection) (s : State) : State :=
  match MainService.onServiceConnected connection.getRafFromNetworkType
      { connection.service with gaming := s.gaming, navBarEnabled := s.navBarEnabled }
      connection.device with
  | .ok service => manageNavBar { s with gaming := service.gaming, connected := true }
  | .error (_, service) => processRestarted { s with gaming := service.gaming }

def step (s : State) : Event → Outcome State State
  | .gaming e _ =>
      match GamingMode.step s.gaming e with
      | .ok gaming => .ok (afterGaming { s with gaming := gaming } e)
      | .error (x, gaming) => .error (x, { s with gaming := gaming })
  | .serviceConnected connection => .ok (onServiceConnected connection s)
  | .navBarEnabledChanged value told =>
      let s := { s with navBarEnabled := value }
      .ok (if s.connected || told then manageNavBar s else s)
  | .navigationModeChanged mode =>
      let s := { s with navBarMode := mode }
      .ok (if s.connected then manageNavBar s else s)
  | .destroyed => .ok { s with connected := false }
  | .rebooted files =>
      .ok { s with
        gaming := { s.gaming with
          isGamingModeEnabled := false, isCapacitiveButtonsUsed := false, files := files }
        mainkeys := s.persistMainkeys
        connected := false }

/-! ## What should hold -/

/-- Whether the keys are to be used: by the preference with three buttons, never with gestures. The
mode with two buttons is not supported. -/
def State.wanted (s : State) : Option Bool :=
  if s.navBarMode = 0 then some !(s.navBarEnabled.getD false)
  else if s.navBarMode = 2 then some false
  else none

/-- The nodes of the keys say what the two statics say. -/
def KeysAgree (g : GamingMode.State) : Prop :=
  ∀ node ∈ [disableCapacitiveKeyNode, disableHomeKey], ∀ x ∈ g.files node,
    x = if g.isCapacitiveButtonsUsed && !g.isGamingModeEnabled then "0" else "1"

/-- The next boot will be right, and this one is, unless a reboot is pending. -/
structure Settles (s : State) (keys : Bool) : Prop where
  persistent : s.persistMainkeys = if keys then "1" else "0"
  used : s.mainKeysEnabled = keys → s.gaming.isCapacitiveButtonsUsed = keys
  nodes : s.mainKeysEnabled = keys → KeysAgree s.gaming

structure NavOk (s : State) : Prop where
  /-- The static never says that the keys are used while the navigation bar is shown. -/
  notBoth : s.gaming.isCapacitiveButtonsUsed = true → s.mainKeysEnabled = true
  settles : s.connected = true → ∀ keys ∈ s.wanted, Settles s keys

/-- The step returns, in a state that is right. -/
def StaysOk (s : State) (e : Event) : Prop := ∃ s', step s e = .ok s' ∧ NavOk s'

/-! ## The keys -/

section Keys

variable {g g' : GamingMode.State}

theorem keysAgree_manage (g : GamingMode.State) : KeysAgree (manageCapacitiveButtons g) := by
  have hwrite (v : String) : ∀ node ∈ [disableCapacitiveKeyNode, disableHomeKey],
      ∀ x ∈ Utils.writeToFile (Utils.writeToFile g.files disableCapacitiveKeyNode v)
        disableHomeKey v node, x = v := by
    intro node hnode x hx
    rw [Option.mem_def, Utils.writeToFile_twice, if_pos (by simpa using hnode),
      Option.map_eq_some_iff] at hx
    obtain ⟨-, -, rfl⟩ := hx
    rfl
  unfold manageCapacitiveButtons
  dsimp only
  split
  · next henabled =>
    intro node hnode x hx
    rw [if_pos henabled]
    exact hwrite "0" node hnode x hx
  · next henabled =>
    intro node hnode x hx
    rw [if_neg henabled]
    exact hwrite "1" node hnode x hx

theorem manageCapacitiveButtons_used (g : GamingMode.State) :
    (manageCapacitiveButtons g).isCapacitiveButtonsUsed = g.isCapacitiveButtonsUsed := by
  obtain ⟨files, h⟩ := manageCapacitiveButtons_frame g
  rw [h]

/-- The brightness is no concern of the keys. -/
theorem restoreBrightness_keys (h : restoreBrightness g = .ok g') :
    g'.files = g.files ∧ g'.isGamingModeEnabled = g.isGamingModeEnabled ∧
      g'.isCapacitiveButtonsUsed = g.isCapacitiveButtonsUsed := by
  unfold restoreBrightness at h
  dsimp only at h
  split at h
  · obtain ⟨mode, -, h⟩ := bind_eq_ok.mp h
    cases h
    exact ⟨rfl, rfl, rfl⟩
  · cases h
    exact ⟨rfl, rfl, rfl⟩

theorem disableGamingMode_keys (h : disableGamingMode g = .ok g') :
    KeysAgree g' ∧ g'.isCapacitiveButtonsUsed = g.isCapacitiveButtonsUsed := by
  unfold disableGamingMode at h
  dsimp only at h
  have hkeys := keysAgree_manage { g with isGamingModeEnabled := false }
  have hused := manageCapacitiveButtons_used { g with isGamingModeEnabled := false }
  generalize manageCapacitiveButtons { g with isGamingModeEnabled := false } = g₁ at h hkeys hused
  obtain ⟨g₂, h₂, h⟩ := bind_eq_ok.mp h
  obtain ⟨hfiles, henabled, hused₂⟩ := restoreBrightness_keys h₂
  have hagree : KeysAgree g₂ := by
    unfold KeysAgree
    rw [hfiles, henabled, hused₂]
    exact hkeys
  cases h
  split
  · exact ⟨hagree, hused₂.trans hused⟩
  · exact ⟨hagree, hused₂.trans hused⟩

/-- An event of gaming mode leaves it to `manageNavBar` whether the keys are used, and the nodes as
that and gaming mode say. -/
theorem gaming_keys {e : GamingMode.Event} (he : e ≠ .processRestarted)
    (h : GamingMode.step g e = .ok g') :
    (KeysAgree g → KeysAgree g') ∧ g'.isCapacitiveButtonsUsed = g.isCapacitiveButtonsUsed := by
  cases e with
  | tileClicked =>
      change onClick g = .ok g' at h
      unfold onClick at h
      split at h
      · obtain ⟨hkeys, hused⟩ := disableGamingMode_keys h
        exact ⟨fun _ => hkeys, hused⟩
      · cases h
        exact ⟨fun _ => keysAgree_manage { g with tileActive := true, isGamingModeEnabled := true },
          manageCapacitiveButtons_used { g with tileActive := true, isGamingModeEnabled := true }⟩
  | bootCompleted =>
      obtain ⟨hkeys, hused⟩ := disableGamingMode_keys h
      exact ⟨fun _ => hkeys, hused⟩
  | headsUpChanged value =>
      cases h
      rw [updateHeadsUp_eq]
      exact ⟨id, rfl⟩
  | serviceConnected =>
      cases h
      rw [updateHeadsUp_eq]
      exact ⟨id, rfl⟩
  | tileReset =>
      cases h
      exact ⟨id, rfl⟩
  | brightnessModeChanged mode =>
      cases h
      exact ⟨id, rfl⟩
  | processRestarted => exact absurd rfl he

end Keys

/-! ## Steps and runs -/

variable {s s' : State} {e : Event} {keys : Bool}

/-- What is wanted, and how it is brought about. -/
theorem manageNavBar_eq (s : State) :
    manageNavBar s = match s.wanted with
      | some keys => applyMainKeys keys s
      | none => s := by
  unfold manageNavBar State.wanted
  by_cases h₀ : s.navBarMode = 0
  · cases s.navBarEnabled.getD false <;> simp [h₀]
  · by_cases h₂ : s.navBarMode = 2
    · simp [h₂]
    · simp [h₀, h₂]

theorem applyMainKeys_settles (keys : Bool) (s : State) :
    Settles (applyMainKeys keys s) keys ∧ (applyMainKeys keys s).wanted = s.wanted ∧
      (applyMainKeys keys s).mainKeysEnabled = s.mainKeysEnabled ∧
      ((applyMainKeys keys s).gaming.isCapacitiveButtonsUsed = true →
        s.gaming.isCapacitiveButtonsUsed = true ∨ s.mainKeysEnabled = true) := by
  unfold applyMainKeys
  by_cases hkeys : s.mainKeysEnabled = keys
  · have hused := manageCapacitiveButtons_used { s.gaming with isCapacitiveButtonsUsed := keys }
    rw [if_pos hkeys]
    refine ⟨⟨rfl, fun _ => hused, fun _ => keysAgree_manage _⟩, rfl, rfl, ?_⟩
    intro h
    exact .inr (hkeys.trans (hused.symm.trans h))
  · rw [if_neg hkeys]
    exact ⟨⟨rfl, fun h => absurd h hkeys, fun h => absurd h hkeys⟩, rfl, rfl, .inl⟩

theorem manageNavBar_ok (h : s.gaming.isCapacitiveButtonsUsed = true → s.mainKeysEnabled = true) :
    NavOk (manageNavBar s) := by
  rw [manageNavBar_eq]
  cases hwanted : s.wanted with
  | none =>
      refine ⟨h, fun _ keys hkeys => ?_⟩
      rw [hwanted] at hkeys
      cases hkeys
  | some keys =>
      obtain ⟨hsettles, hsame, henabled, hused⟩ := applyMainKeys_settles keys s
      refine ⟨fun huse => ?_, fun _ keys' hkeys' => ?_⟩
      · rw [henabled]
        exact (hused huse).elim h id
      · rw [hsame, hwanted] at hkeys'
        cases hkeys'
        exact hsettles

/-- What of gaming mode matters, and what of this. -/
structure Inv (s : State) : Prop extends NavOk s where
  sound : Sound s.gaming

theorem inv_initial (d : Device) : Inv (.initial d) where
  notBoth := by
    intro h
    cases h
  settles := by
    intro h
    cases h
  sound := sound_initial d.toDevice

theorem sound_manageCapacitiveButtons {g : GamingMode.State} (h : Sound g) :
    Sound (manageCapacitiveButtons g) := by
  obtain ⟨files, heq⟩ := manageCapacitiveButtons_frame g
  rw [heq]
  exact ⟨⟨h.mode, h.sessionMode, h.saved⟩, h.inactive⟩

theorem sound_manageNavBar (h : Sound s.gaming) : Sound (manageNavBar s).gaming := by
  rw [manageNavBar_eq]
  split
  · next keys _ =>
    unfold applyMainKeys
    by_cases hkeys : s.mainKeysEnabled = keys
    · rw [if_pos hkeys]
      exact sound_manageCapacitiveButtons ⟨⟨h.mode, h.sessionMode, h.saved⟩, h.inactive⟩
    · rw [if_neg hkeys]
      exact h
  · exact h

/-- The statics are lost, and nothing is asked of the nodes before the service is connected. -/
theorem inv_processRestarted (h : Sound s.gaming) : Inv (processRestarted s) where
  notBoth := by
    intro hused
    cases hused
  settles := by
    intro hconn
    cases hconn
  sound := ⟨⟨h.mode, h.sessionMode, h.saved⟩, h.inactive⟩

theorem Inv.gaming (h : Inv s) (e : GamingMode.Event) (he : e ≠ .serviceConnected) :
    ∃ s', step s (.gaming e he) = .ok s' ∧ Inv s' := by
  obtain ⟨g, hg, hsound⟩ := step_sound h.sound e
  refine ⟨afterGaming { s with gaming := g } e, by simp only [step, hg], ?_⟩
  by_cases hrestart : e = .processRestarted
  · subst hrestart
    cases hg
    exact inv_processRestarted h.sound
  · obtain ⟨hkeys, hused⟩ := gaming_keys hrestart hg
    have hother : Inv { s with gaming := g } :=
      ⟨⟨by rw [hused]; exact h.notBoth, fun hconn keys hwanted =>
        have hsettles := h.settles hconn keys hwanted
        ⟨hsettles.persistent, fun hkey => hused.trans (hsettles.used hkey),
          fun hkey => hkeys (hsettles.nodes hkey)⟩⟩, hsound⟩
    cases e with
    | processRestarted => exact absurd rfl hrestart
    | tileClicked | bootCompleted | headsUpChanged | serviceConnected | tileReset
    | brightnessModeChanged => exact hother

/-- Connecting ends with `manageNavBar` or with the process. -/
theorem Inv.serviceConnected (h : Inv s) (connection : Connection) :
    Inv (onServiceConnected connection s) := by
  obtain ⟨headsUp, hleft⟩ := MainService.left_onServiceConnected_gaming
    connection.getRafFromNetworkType
    { connection.service with gaming := s.gaming, navBarEnabled := s.navBarEnabled }
    connection.device
  have hsound : Sound { s.gaming with headsUpSetting := headsUp } :=
    ⟨⟨h.sound.mode, h.sound.sessionMode, h.sound.saved⟩, h.sound.inactive⟩
  unfold onServiceConnected
  split
  · next service hok =>
    rw [hok] at hleft
    change service.gaming = { s.gaming with headsUpSetting := headsUp } at hleft
    rw [hleft]
    exact ⟨manageNavBar_ok h.notBoth, sound_manageNavBar hsound⟩
  · next service herror =>
    rw [herror] at hleft
    change service.gaming = { s.gaming with headsUpSetting := headsUp } at hleft
    rw [hleft]
    exact inv_processRestarted hsound

/-- Every step returns and keeps the invariant. -/
theorem Inv.step (h : Inv s) (e : Event) : ∃ s', step s e = .ok s' ∧ Inv s' := by
  -- a change that the service is told of whenever it is connected
  have hchange (s₁ : State) {told : Bool} (hgaming : s₁.gaming = s.gaming)
      (hkeys : s₁.mainKeysEnabled = s.mainKeysEnabled)
      (htold : s₁.connected = true → told = true) :
      Inv (if told then manageNavBar s₁ else s₁) := by
    have hboth : s₁.gaming.isCapacitiveButtonsUsed = true → s₁.mainKeysEnabled = true := by
      rw [hgaming, hkeys]
      exact h.notBoth
    have hsound : Sound s₁.gaming := hgaming ▸ h.sound
    split
    · exact ⟨manageNavBar_ok hboth, sound_manageNavBar hsound⟩
    · next hconn => exact ⟨⟨hboth, fun h => absurd (htold h) hconn⟩, hsound⟩
  cases e with
  | gaming e he => exact h.gaming e he
  | serviceConnected connection => exact ⟨_, rfl, h.serviceConnected connection⟩
  | navBarEnabledChanged value told =>
      refine ⟨_, rfl, hchange { s with navBarEnabled := value } rfl rfl ?_⟩
      intro (hconn : s.connected = true)
      exact Bool.or_eq_true_iff.mpr (.inl hconn)
  | navigationModeChanged mode =>
      exact ⟨_, rfl, hchange { s with navBarMode := mode } rfl rfl id⟩
  | destroyed =>
      refine ⟨_, rfl, ⟨h.notBoth, ?_⟩, h.sound⟩
      intro hconn
      cases hconn
  | rebooted files =>
      refine ⟨_, rfl, ⟨?_, ?_⟩, ?_⟩
      · intro hused
        cases hused
      · intro hconn
        cases hconn
      · exact ⟨⟨h.sound.mode, h.sound.sessionMode, h.sound.saved⟩, h.sound.inactive⟩

/-- This boot and the next one go by what is wanted. -/
structure Settled (keys : Bool) (s : State) : Prop extends Inv s where
  wanted : s.wanted = some keys
  persistent : s.persistMainkeys = if keys then "1" else "0"
  enabled : s.mainKeysEnabled = keys

/-- The keys and their nodes are what is wanted. -/
def Right (keys : Bool) (g : GamingMode.State) : Prop :=
  g.isCapacitiveButtonsUsed = keys ∧ KeysAgree g

/-- The step returns, with the property as it is wanted; and whenever the service is connected after
it, all is right. -/
def StaysRight (keys : Bool) (s : State) (e : Event) : Prop :=
  ∃ s', step s e = .ok s' ∧ s'.mainKeysEnabled = keys ∧
    (s'.connected = true → Right keys s'.gaming)

/-- The user may change the settings, but not so that something else is wanted. -/
def KeepsWanted (keys : Bool) (s : State) (e : Event) : Prop :=
  ∀ s', step s e = .ok s' → s'.wanted = some keys

theorem mainKeysEnabled_of_mainkeys (h : s.mainkeys = if keys then "1" else "0") :
    s.mainKeysEnabled = keys := by
  unfold State.mainKeysEnabled
  rw [h]
  cases keys <;> decide

theorem manageNavBar_wanted (s : State) : (manageNavBar s).wanted = s.wanted := by
  rw [manageNavBar_eq]
  split
  · next keys _ => exact (applyMainKeys_settles keys s).2.1
  · rfl

theorem Settled.right (h : Settled keys s) (hconn : s.connected = true) : Right keys s.gaming := by
  have hsettles := h.settles hconn keys h.wanted
  exact ⟨hsettles.used h.enabled, hsettles.nodes h.enabled⟩

/-- What `manageNavBar` does to the two properties, when it is told what is wanted. -/
theorem manageNavBar_keys (hwanted : s.wanted = some keys) :
    (manageNavBar s).persistMainkeys = (if keys then "1" else "0") ∧
      (manageNavBar s).mainKeysEnabled = s.mainKeysEnabled := by
  rw [manageNavBar_eq, hwanted]
  obtain ⟨hsettles, -, henabled, -⟩ := applyMainKeys_settles keys s
  exact ⟨hsettles.persistent, henabled⟩

/-- A step after which the same is wanted leaves the properties at what is wanted. -/
theorem Settled.step (h : Settled keys s) (hwanted : KeepsWanted keys s e) :
    ∃ s', step s e = .ok s' ∧ Settled keys s' := by
  obtain ⟨s', hok, hinv⟩ := h.toInv.step e
  have hwanted' := hwanted s' hok
  have hmanage (s₁ : State) (hs' : s' = manageNavBar s₁)
      (hkeys : s₁.mainKeysEnabled = keys) : Settled keys s' := by
    subst hs'
    rw [manageNavBar_wanted] at hwanted'
    obtain ⟨hpersistent, henabled⟩ := manageNavBar_keys hwanted'
    exact ⟨hinv, (manageNavBar_wanted s₁).trans hwanted', hpersistent, henabled.trans hkeys⟩
  refine ⟨s', hok, ?_⟩
  cases e with
  | gaming e he =>
      obtain ⟨g, hg, -⟩ := step_sound h.sound e
      simp only [NavBar.step, hg] at hok
      cases e with
      | serviceConnected => exact absurd rfl he
      | tileClicked | bootCompleted | headsUpChanged | tileReset | brightnessModeChanged
      | processRestarted =>
          cases hok
          exact ⟨hinv, hwanted', h.persistent, h.enabled⟩
  | serviceConnected connection =>
      have hs' := (Except.ok.inj hok).symm
      unfold onServiceConnected at hs'
      split at hs'
      · next service _ =>
        exact hmanage { s with gaming := service.gaming, connected := true } hs' h.enabled
      · subst hs'
        exact ⟨hinv, hwanted', h.persistent, h.enabled⟩
  | navBarEnabledChanged value told =>
      have hs' := (Except.ok.inj hok).symm
      split at hs'
      · exact hmanage { s with navBarEnabled := value } hs' h.enabled
      · subst hs'
        exact ⟨hinv, hwanted', h.persistent, h.enabled⟩
  | navigationModeChanged mode =>
      have hs' := (Except.ok.inj hok).symm
      split at hs'
      · exact hmanage { s with navBarMode := mode } hs' h.enabled
      · subst hs'
        exact ⟨hinv, hwanted', h.persistent, h.enabled⟩
  | destroyed =>
      cases hok
      exact ⟨hinv, hwanted', h.persistent, h.enabled⟩
  | rebooted files =>
      cases hok
      exact ⟨hinv, hwanted', h.persistent, mainKeysEnabled_of_mainkeys h.persistent⟩

/-- Capacitive keys in use, three buttons, and a service that was never connected. -/
def capacitive : Device where
  tileActive := false
  headsUpNotificationsEnabled := none
  screenBrightnessMode := none
  headsUpSetting := none
  files := fun _ => some "0"
  mainkeys := ""
  persistMainkeys := ""
  navBarMode := 0
  navBarEnabled := none

/-- A service without preferences, which finds the slider at the bottom. -/
def plainConnection : Connection where
  getRafFromNetworkType := id
  service := .created ⟨fun _ => none, fun _ => none, none⟩
    ⟨"3", ⟨-1, -1, 1⟩, true, "false", capacitive.toDevice⟩
  device := ⟨"3", ⟨-1, -1, 1⟩, true, "false", capacitive.toDevice⟩

end VendorRs.NavBar
