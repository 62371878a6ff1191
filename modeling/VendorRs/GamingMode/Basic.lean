import VendorRs.Lib.Runs
import VendorRs.Utils

/-!
# Gaming mode

Gaming mode turns off the capacitive keys, automatic brightness and heads-up notifications. What it
knows of itself is spread over three places of different lifetime: a static flag, lost with the
process; a preference that keeps the brightness mode to go back to; and the state of the quick
settings tile, which decides what a click does.

The heads-up setting is also written by `MainService`, from the preference of the user, when it
connects and when the preference changes.

`Sound` says how the three places hang together in every reachable state: what is saved is the mode
of the session under way, and without an active tile there is no session.
-/

namespace VendorRs.GamingMode

open Java Runs

/-- `SCREEN_BRIGHTNESS_MODE_MANUAL` and `SCREEN_BRIGHTNESS_MODE_AUTOMATIC`. -/
inductive BrightnessMode where
  | manual
  | automatic
  deriving DecidableEq, Repr

def BrightnessMode.toInt : BrightnessMode → Int
  | .manual => 0
  | .automatic => 1

structure State where
  /-- A static of `Utils`. -/
  isGamingModeEnabled : Bool
  /-- The other one. -/
  isCapacitiveButtonsUsed : Bool
  /-- Whether the tile is in `STATE_ACTIVE`. -/
  tileActive : Bool
  /-- The preference `gm_extra.autobrightness`. -/
  autobrightness : Option String
  /-- The preference of the same name. -/
  headsUpNotificationsEnabled : Option Bool
  /-- The system setting `SCREEN_BRIGHTNESS_MODE`. -/
  screenBrightnessMode : Option Int
  /-- The global setting `HEADS_UP_NOTIFICATIONS_ENABLED`. -/
  headsUpSetting : Option String
  files : Utils.Files
  /-- For the theorems only: the brightness mode in force when the session under way began. -/
  session : Option Int

/-- What is there before the first process runs: nothing is known of the user's settings. -/
structure Device where
  tileActive : Bool
  headsUpNotificationsEnabled : Option Bool
  screenBrightnessMode : Option BrightnessMode
  headsUpSetting : Option String
  files : Utils.Files

def State.initial (d : Device) : State where
  isGamingModeEnabled := false
  isCapacitiveButtonsUsed := false
  tileActive := d.tileActive
  autobrightness := none
  headsUpNotificationsEnabled := d.headsUpNotificationsEnabled
  screenBrightnessMode := d.screenBrightnessMode.map BrightnessMode.toInt
  headsUpSetting := d.headsUpSetting
  files := d.files
  session := none

/-- The mode in force; a setting that is not there counts as manual. -/
def State.brightnessMode (s : State) : Int :=
  s.screenBrightnessMode.getD BrightnessMode.manual.toInt

/-- `pref.getBoolean("headsUpNotificationsEnabled", true)`. -/
def State.areHeadsUpEnabled (s : State) : Bool := s.headsUpNotificationsEnabled.getD true

/-! ## The functions -/

def disableCapacitiveKeyNode : String := "/proc/touchpanel/key_disable"

def disableHomeKey : String := "/sys/module/fpc1020_tee/parameters/ignor_home_for_ESD"

def manageCapacitiveButtons (s : State) : State :=
  let enabled := s.isCapacitiveButtonsUsed && !s.isGamingModeEnabled
  if enabled then
    { s with
      files := Utils.writeToFile (Utils.writeToFile s.files disableCapacitiveKeyNode "0")
        disableHomeKey "0" }
  else
    { s with
      files := Utils.writeToFile (Utils.writeToFile s.files disableCapacitiveKeyNode "1")
        disableHomeKey "1" }

def setHeadsUpNotification (value : String) (s : State) : State :=
  { s with headsUpSetting := some value }

def enableGamingMode (s : State) : State :=
  let s := { s with isGamingModeEnabled := true }
  let s := manageCapacitiveButtons s
  let mode := s.brightnessMode
  let s := { s with
    autobrightness := some (toString mode)
    screenBrightnessMode := some BrightnessMode.manual.toInt
    -- a session that is under way has begun before
    session := s.session.or (some mode) }
  setHeadsUpNotification "0" s

/-- The half of `disableGamingMode` that is about the brightness; `2` stands for nothing saved. -/
def restoreBrightness (s : State) : Outcome State State :=
  let autoBrightnessValue := s.autobrightness.getD "2"
  if autoBrightnessValue ≠ "2" then do
    let mode ← leaving s (valueOf autoBrightnessValue)
    return { s with screenBrightnessMode := some mode, autobrightness := none }
  else
    return s

def disableGamingMode (s : State) : Outcome State State := do
  let s := { s with isGamingModeEnabled := false }
  let s := manageCapacitiveButtons s
  let s ← restoreBrightness s
  let s := { s with session := none }
  -- when they are not enabled the setting is left as it is
  return if s.areHeadsUpEnabled then setHeadsUpNotification "1" s else s

/-- `GamingModeTile.onClick`. -/
def onClick (s : State) : Outcome State State :=
  if s.tileActive then disableGamingMode { s with tileActive := false }
  else .ok (enableGamingMode { s with tileActive := true })

/-- What `MainService` does when it connects and when the preference changes: gaming mode is not
asked for. -/
def updateHeadsUp (s : State) : State :=
  if s.areHeadsUpEnabled then setHeadsUpNotification "1" s else setHeadsUpNotification "0" s

/-! ## Events -/

inductive Event where
  | tileClicked
  /-- The runnable posted by `UserBootCompletedReceiver.onReceive`. -/
  | bootCompleted
  /-- The preference gets a value, or none, and `mPreferenceListener` is told. -/
  | headsUpChanged (value : Option Bool)
  /-- `MainService.onServiceConnected`, as far as the setting is concerned. If it throws, before
  this or after it, the process goes down, which is `processRestarted`. -/
  | serviceConnected
  /-- The system shows the tile as active again. -/
  | tileReset
  /-- The user chooses a brightness mode. -/
  | brightnessModeChanged (mode : BrightnessMode)
  /-- The process goes and comes back: statics are lost, preferences and settings are not. -/
  | processRestarted
  deriving DecidableEq, Repr

def step (s : State) : Event → Outcome State State
  | .tileClicked => onClick s
  | .bootCompleted => disableGamingMode s
  | .headsUpChanged value => .ok (updateHeadsUp { s with headsUpNotificationsEnabled := value })
  | .serviceConnected => .ok (updateHeadsUp s)
  | .tileReset => .ok { s with tileActive := true }
  | .brightnessModeChanged mode => .ok { s with screenBrightnessMode := some mode.toInt }
  | .processRestarted =>
      .ok { s with isGamingModeEnabled := false, isCapacitiveButtonsUsed := false }

/-! ## What every run keeps -/

/-- What is saved belongs to the session under way. -/
structure Remembers (s : State) : Prop where
  /-- A setting that is there is one of the two modes. -/
  mode : ∀ m ∈ s.screenBrightnessMode, ∃ b : BrightnessMode, m = b.toInt
  /-- So is the mode of the session. -/
  sessionMode : ∀ m ∈ s.session, ∃ b : BrightnessMode, m = b.toInt
  saved : s.autobrightness = s.session.map toString

structure Sound (s : State) : Prop extends Remembers s where
  /-- A click on a tile that is not active never meets a session. -/
  inactive : s.tileActive = false → s.session = none

theorem sound_initial (d : Device) : Sound (State.initial d) := by
  refine ⟨⟨?_, by simp [State.initial], rfl⟩, fun _ => rfl⟩
  intro m hm
  simp only [State.initial, Option.mem_def, Option.map_eq_some_iff] at hm
  obtain ⟨b, -, rfl⟩ := hm
  exact ⟨b, rfl⟩

variable {s s' : State} {e : Event}

theorem Remembers.brightnessMode (h : Remembers s) :
    ∃ b : BrightnessMode, s.brightnessMode = b.toInt := by
  unfold State.brightnessMode
  cases hmode : s.screenBrightnessMode with
  | none => exact ⟨.manual, rfl⟩
  | some m => exact h.mode m (by rw [hmode]; rfl)

theorem manageCapacitiveButtons_frame (s : State) :
    ∃ files, manageCapacitiveButtons s = { s with files := files } := by
  unfold manageCapacitiveButtons
  dsimp only
  split
  · exact ⟨_, rfl⟩
  · exact ⟨_, rfl⟩

/-- The mode of the session is put back, if there is a session. -/
theorem restoreBrightness_eq (hsaved : s.autobrightness = s.session.map toString)
    (hmode : ∀ m ∈ s.session, ∃ b : BrightnessMode, m = b.toInt) :
    restoreBrightness s = .ok { s with
      screenBrightnessMode := s.session.or s.screenBrightnessMode
      autobrightness := none } := by
  unfold restoreBrightness
  cases hsession : s.session with
  | none =>
      rw [hsession, Option.map_none] at hsaved
      rw [hsaved]
      show Except.ok s = _
      rw [Option.none_or, ← hsaved, ← hsession]
  | some m =>
      -- a mode that was saved is never the text that stands for none
      obtain ⟨b, rfl⟩ := hmode m hsession
      have hread : valueOf (toString b.toInt) = .ok b.toInt := by cases b <;> decide
      have hne : toString b.toInt ≠ "2" := by cases b <;> decide
      rw [hsession, Option.map_some] at hsaved
      rw [hsaved, Option.getD_some]
      dsimp only
      rw [if_pos hne, hread, leaving_ok, ok_bind, Option.some_or]
      rfl

theorem disableGamingMode_eq (h : Remembers s) :
    ∃ files, disableGamingMode s = .ok { s with
      isGamingModeEnabled := false
      autobrightness := none
      screenBrightnessMode := s.session.or s.screenBrightnessMode
      headsUpSetting := if s.areHeadsUpEnabled then some "1" else s.headsUpSetting
      files := files
      session := none } := by
  obtain ⟨files, hfiles⟩ := manageCapacitiveButtons_frame { s with isGamingModeEnabled := false }
  have hbright : restoreBrightness { s with isGamingModeEnabled := false, files := files } =
      .ok { s with
        isGamingModeEnabled := false
        files := files
        screenBrightnessMode := s.session.or s.screenBrightnessMode
        autobrightness := none } := restoreBrightness_eq h.saved h.sessionMode
  refine ⟨files, ?_⟩
  unfold disableGamingMode
  dsimp only
  rw [hfiles, hbright, ok_bind]
  show Except.ok (if s.areHeadsUpEnabled = true then _ else _) = _
  cases hheads : s.areHeadsUpEnabled with
  | false => rfl
  | true => rfl

theorem enableGamingMode_eq (s : State) :
    ∃ files, enableGamingMode s = { s with
      isGamingModeEnabled := true
      autobrightness := some (toString s.brightnessMode)
      screenBrightnessMode := some 0
      headsUpSetting := some "0"
      files := files
      session := s.session.or (some s.brightnessMode) } := by
  obtain ⟨files, hfiles⟩ := manageCapacitiveButtons_frame { s with isGamingModeEnabled := true }
  refine ⟨files, ?_⟩
  unfold enableGamingMode
  dsimp only
  rw [hfiles]
  rfl

theorem updateHeadsUp_eq (s : State) :
    updateHeadsUp s =
      { s with headsUpSetting := some (if s.areHeadsUpEnabled then "1" else "0") } := by
  unfold updateHeadsUp
  split <;> rfl

/-- The session is over after `disableGamingMode`. -/
theorem disableGamingMode_sound (h : Remembers s) :
    ∃ s', disableGamingMode s = .ok s' ∧ Sound s' := by
  obtain ⟨files, heq⟩ := disableGamingMode_eq h
  refine ⟨_, heq, ⟨?_, by simp, rfl⟩, fun _ => rfl⟩
  intro m hm
  rcases Option.or_eq_some_iff.mp hm with hsession | ⟨-, hmode⟩
  · exact h.sessionMode m hsession
  · exact h.mode m hmode

/-- Gaming mode is only enabled between two sessions. Within one, the mode that is saved would no
longer be the one in force before it. -/
theorem enableGamingMode_sound (h : Remembers s) (hactive : s.tileActive = true)
    (hsession : s.session = none) : Sound (enableGamingMode s) := by
  obtain ⟨files, heq⟩ := enableGamingMode_eq s
  rw [heq, hsession, Option.none_or]
  refine ⟨⟨?_, ?_, rfl⟩, by simp [hactive]⟩
  · intro m hm
    cases hm
    exact ⟨.manual, rfl⟩
  · intro m hm
    cases hm
    exact h.brightnessMode

/-- No step of a run throws, and each keeps the three places together. -/
theorem step_sound (h : Sound s) (e : Event) : ∃ s', step s e = .ok s' ∧ Sound s' := by
  cases e with
  | tileClicked =>
      show ∃ s', onClick s = .ok s' ∧ Sound s'
      unfold onClick
      by_cases hactive : s.tileActive = true
      · -- the tile leaves the active state, but the session ends with it
        rw [if_pos hactive]
        exact disableGamingMode_sound ⟨h.mode, h.sessionMode, h.saved⟩
      · -- there is no session that this one could fall into
        have hsession : s.session = none := h.inactive (Bool.eq_false_of_not_eq_true hactive)
        rw [if_neg hactive]
        exact ⟨_, rfl, enableGamingMode_sound (s := { s with tileActive := true })
          ⟨h.mode, h.sessionMode, h.saved⟩ rfl hsession⟩
  | bootCompleted => exact disableGamingMode_sound h.toRemembers
  | headsUpChanged value =>
      refine ⟨_, rfl, ?_⟩
      rw [updateHeadsUp_eq]
      exact ⟨⟨h.mode, h.sessionMode, h.saved⟩, h.inactive⟩
  | serviceConnected =>
      refine ⟨_, rfl, ?_⟩
      rw [updateHeadsUp_eq]
      exact ⟨⟨h.mode, h.sessionMode, h.saved⟩, h.inactive⟩
  | tileReset => exact ⟨_, rfl, ⟨h.mode, h.sessionMode, h.saved⟩, by simp⟩
  | brightnessModeChanged mode =>
      refine ⟨_, rfl, ⟨?_, h.sessionMode, h.saved⟩, h.inactive⟩
      intro m hm
      cases hm
      exact ⟨mode, rfl⟩
  | processRestarted => exact ⟨_, rfl, ⟨h.mode, h.sessionMode, h.saved⟩, h.inactive⟩

end VendorRs.GamingMode
