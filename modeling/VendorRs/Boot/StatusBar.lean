import VendorRs.IconBlacklist
import VendorRs.Bluetooth.Basic
import VendorRs.Lib.Runs

/-!
# The icons of the status bar, from boot to boot

Once the user has unlocked the device, `UserBootCompletedReceiver` hides two icons, and the first
time it shows two others again. `BluetoothBatteryIcon` hides the same two whenever it shows its own.
Between them the user hides and shows icons at will.

As long as the names of the four do not occur in those of others, what is hidden is what the user
has chosen, and what the app adds to that or takes away is exactly this much (`choice_stays`).
-/

namespace VendorRs.StatusBar

open Java Utils IconBlacklist Runs

/-! ## The receiver -/

/-- The list, and the preference `addedBackIcon`, which is off until it is set. -/
structure Settings where
  iconBlacklist : Option String
  addedBackIcon : Bool

/-- `UserBootCompletedReceiver.onReceive`, as far as the list is concerned. -/
def onReceive (s : Settings) : Settings :=
  let iconBlacklist := removeUnwantendStatusBarIcon s.iconBlacklist "rotate"
  let iconBlacklist := removeUnwantendStatusBarIcon iconBlacklist "bluetooth"
  if s.addedBackIcon then { s with iconBlacklist := iconBlacklist }
  else
    let iconBlacklist := addWantedStatusBarIconIfMissing iconBlacklist "volume"
    { iconBlacklist := addWantedStatusBarIconIfMissing iconBlacklist "alarm_clock"
      addedBackIcon := true }

/-! ## The device -/

structure State where
  /-- The service, and the list. -/
  bluetooth : Bluetooth.State
  addedBackIcon : Bool
  /-- The list as the user has left it. -/
  chosen : Option String
  /-- Since then two icons have been shown again. -/
  shownAgain : Bool

def State.list (s : State) : Option String := s.bluetooth.iconBlacklist

/-- A device that has never been unlocked, with the list that it comes with. -/
def State.initial (list : Option String) : State where
  bluetooth := .start list
  addedBackIcon := false
  chosen := list
  shownAgain := false

inductive Event where
  | unlocked
  /-- A new `BluetoothBatteryIcon`, in this process or another one. -/
  | serviceStarted
  | bluetooth (e : Bluetooth.Event)
  | listChosen (list : Option String)
  deriving DecidableEq

def unlock (s : State) : State :=
  let settings := onReceive ⟨s.list, s.addedBackIcon⟩
  { s with
    bluetooth := { s.bluetooth with iconBlacklist := settings.iconBlacklist }
    addedBackIcon := settings.addedBackIcon
    shownAgain := s.shownAgain || !s.addedBackIcon }

def step (s : State) : Event → Except Empty State
  | .unlocked => .ok (unlock s)
  | .serviceStarted => .ok { s with bluetooth := .start s.list }
  | .bluetooth e => .ok { s with bluetooth := Bluetooth.onReceive s.bluetooth e }
  | .listChosen list => .ok { s with
      bluetooth := { s.bluetooth with iconBlacklist := list }
      chosen := list
      shownAgain := false }

/-! ## What the user finds -/

def hiddenIcons : List String := ["rotate", "bluetooth"]

def shownIcons : List String := ["volume", "alarm_clock"]

/-- The list is the user's, but for the icons that the app hides, and those it has shown again. -/
structure State.Kept (s : State) : Prop where
  others : ∀ icon, icon ∉ hiddenIcons → icon ∉ shownIcons →
    (icon ∈ icons s.list ↔ icon ∈ icons s.chosen)
  shown : ∀ icon ∈ shownIcons,
    icon ∈ icons s.list ↔ icon ∈ icons s.chosen ∧ s.shownAgain = false
  hidden : ∀ icon ∈ hiddenIcons, icon ∈ icons s.chosen → icon ∈ icons s.list

/-- After the step that is so, unlocking has hidden its icons, and nothing is shown again twice. -/
def StaysKept (s : State) (e : Event) : Prop :=
  ∀ s', step s e = .ok s' → s'.Kept ∧
    (e = .unlocked → (∀ icon ∈ hiddenIcons, icon ∈ icons s'.list) ∧ s'.addedBackIcon = true) ∧
    (s.addedBackIcon = true → s'.addedBackIcon = true ∧
      (s'.shownAgain = true → s.shownAgain = true))

/-- None of the four names occurs in that of another icon on the list. -/
def IconsAlone (list : Option String) : Prop :=
  ∀ icon ∈ hiddenIcons ++ shownIcons, StandsAlone list icon

/-- The user chooses such lists only. -/
def ChoosesAlone (_ : State) (e : Event) : Prop := ∀ list, e = .listChosen list → IconsAlone list

variable {s s' : State} {e : Event} {icon token : String} {l l' l'' : Option String}

/-! ## Names inside other names -/

theorem StandsAlone.of_subset (h : StandsAlone l icon) (hsubset : icons l' ⊆ icons l) :
    StandsAlone l' icon := by
  intro token htoken
  exact h token (hsubset htoken)

theorem StandsAlone.of_insert (h : StandsAlone l icon)
    (hinsert : icons l' = insert token (icons l)) (hcontains : contains token icon → token = icon) :
    StandsAlone l' icon := by
  intro token' htoken'
  rw [hinsert, Finset.mem_insert] at htoken'
  rcases htoken' with rfl | htoken'
  · exact hcontains
  · exact h token' htoken'

/-- None of the four has the name of another one inside its own. -/
theorem iconsAlone_names :
    ∀ icon ∈ hiddenIcons ++ shownIcons, icon ≠ "" ∧ ',' ∉ icon.toList ∧
      ∀ token ∈ hiddenIcons ++ shownIcons, contains token icon → token = icon := by
  decide +kernel

theorem IconsAlone.inserts (h : IconsAlone l) (hicon : icon ∈ hiddenIcons ++ shownIcons) :
    icons (removeUnwantendStatusBarIcon l icon) = insert icon (icons l) ∧
      IconsAlone (removeUnwantendStatusBarIcon l icon) := by
  obtain ⟨hne, hcomma, -⟩ := iconsAlone_names icon hicon
  have hinsert := (h icon hicon).inserts hne hcomma
  refine ⟨hinsert, ?_⟩
  intro icon' hicon'
  obtain ⟨-, -, halone⟩ := iconsAlone_names icon' hicon'
  exact StandsAlone.of_insert (h icon' hicon') hinsert (halone icon hicon)

theorem IconsAlone.erases (h : IconsAlone l) (hicon : icon ∈ hiddenIcons ++ shownIcons) :
    icons (addWantedStatusBarIconIfMissing l icon) = (icons l).erase icon ∧
      IconsAlone (addWantedStatusBarIconIfMissing l icon) := by
  obtain ⟨-, hcomma, -⟩ := iconsAlone_names icon hicon
  have herase := (h icon hicon).erases hcomma
  refine ⟨herase, ?_⟩
  intro icon' hicon'
  apply StandsAlone.of_subset (h icon' hicon')
  rw [herase]
  exact Finset.erase_subset _ _

/-! ## What the app does to the list -/

/-- From `l` to `l'` some of the two icons have been hidden. -/
structure Hides (l l' : Option String) : Prop where
  alone : IconsAlone l'
  subset : icons l ⊆ icons l'
  only : ∀ icon ∈ icons l', icon ∈ icons l ∨ icon ∈ hiddenIcons

theorem Hides.refl (h : IconsAlone l) : Hides l l where
  alone := h
  subset := Finset.Subset.refl _
  only _ hicon := .inl hicon

theorem Hides.trans (h : Hides l l') (h' : Hides l' l'') : Hides l l'' where
  alone := h'.alone
  subset := h.subset.trans h'.subset
  only icon hicon := by
    rcases h'.only icon hicon with hicon | hicon
    · exact h.only icon hicon
    · exact .inr hicon

theorem IconsAlone.hides (h : IconsAlone l) (hicon : icon ∈ hiddenIcons) :
    Hides l (removeUnwantendStatusBarIcon l icon) := by
  obtain ⟨hinsert, halone⟩ := h.inserts (List.mem_append_left shownIcons hicon)
  refine ⟨halone, ?_, ?_⟩
  · rw [hinsert]
    exact Finset.subset_insert _ _
  · intro icon' hicon'
    rw [hinsert, Finset.mem_insert] at hicon'
    rcases hicon' with rfl | hicon'
    · exact .inr hicon
    · exact .inl hicon'

theorem IconsAlone.hides_both (h : IconsAlone l) :
    Hides l
      (removeUnwantendStatusBarIcon (removeUnwantendStatusBarIcon l "rotate") "bluetooth") := by
  have hrotate := h.hides (by decide : "rotate" ∈ hiddenIcons)
  exact hrotate.trans (hrotate.alone.hides (by decide))

/-- A broadcast hides the icon of the system, the other one as well, or none. -/
theorem IconsAlone.hides_bluetooth {b : Bluetooth.State} (h : IconsAlone b.iconBlacklist)
    (e : Bluetooth.Event) :
    Hides b.iconBlacklist (Bluetooth.onReceive b e).iconBlacklist := by
  have hnone := Hides.refl h
  have hone := h.hides (by decide : "bluetooth" ∈ hiddenIcons)
  cases e with
  | stateChanged state =>
      rw [Bluetooth.onReceive, Bluetooth.onStateChanged]
      split
      · exact h.hides_both
      · split
        · exact hnone
        · exact hnone
  | aclConnected address =>
      rw [Bluetooth.onReceive, Bluetooth.onAclConnected]
      dsimp only
      split
      · exact hone
      · exact hnone
  | aclDisconnected address =>
      rw [Bluetooth.onReceive, Bluetooth.onAclDisconnected]
      dsimp only
      split
      · exact hnone
      · split
        · exact hnone
        · exact hone
  | batteryLevelChanged address batteryLevel =>
      rw [Bluetooth.onReceive, Bluetooth.onBatteryLevelChanged]
      split
      · split
        · exact hnone
        · exact hone
      · split
        · exact hnone
        · exact hone

/-- What unlocking makes of the set: two icons are in it, and the first time two others are not. -/
theorem IconsAlone.onReceive {settings : Settings} (h : IconsAlone settings.iconBlacklist) :
    icons (onReceive settings).iconBlacklist =
        (if settings.addedBackIcon then
          insert "bluetooth" (insert "rotate" (icons settings.iconBlacklist))
        else
          ((insert "bluetooth" (insert "rotate" (icons settings.iconBlacklist))).erase
            "volume").erase "alarm_clock") ∧
      IconsAlone (onReceive settings).iconBlacklist := by
  obtain ⟨hrotate, h⟩ := h.inserts (by decide : "rotate" ∈ hiddenIcons ++ shownIcons)
  obtain ⟨hbluetooth, h⟩ := h.inserts (by decide : "bluetooth" ∈ hiddenIcons ++ shownIcons)
  rw [hrotate] at hbluetooth
  unfold StatusBar.onReceive
  split
  · exact ⟨hbluetooth, h⟩
  · obtain ⟨hvolume, h⟩ := h.erases (by decide : "volume" ∈ hiddenIcons ++ shownIcons)
    obtain ⟨halarm, h⟩ := h.erases (by decide : "alarm_clock" ∈ hiddenIcons ++ shownIcons)
    rw [hvolume, hbluetooth] at halarm
    exact ⟨halarm, h⟩

/-! ## Steps and runs -/

structure Inv (s : State) : Prop where
  kept : s.Kept
  alone : IconsAlone s.list
  /-- Only unlocking shows icons again. -/
  first : s.shownAgain = true → s.addedBackIcon = true

theorem not_mem_shownIcons (h : icon ∈ hiddenIcons) : icon ∉ shownIcons := by
  revert icon
  decide

theorem not_mem_hiddenIcons (h : icon ∈ shownIcons) : icon ∉ hiddenIcons :=
  fun hhidden => not_mem_shownIcons hhidden h

/-- To hide more of the two icons is no more than the app may do. -/
theorem State.Kept.of_hides (h : s.Kept) (hlist : Hides s.list s'.list)
    (hchosen : s'.chosen = s.chosen) (hagain : s'.shownAgain = s.shownAgain) : s'.Kept := by
  have hsame {icon : String} (hicon : icon ∉ hiddenIcons) :
      icon ∈ icons s'.list ↔ icon ∈ icons s.list := by
    constructor
    · intro hmem
      exact (hlist.only icon hmem).resolve_right hicon
    · exact fun hmem => hlist.subset hmem
  constructor
  · intro icon hhidden hshown
    rw [hsame hhidden, hchosen]
    exact h.others icon hhidden hshown
  · intro icon hshown
    rw [hsame (not_mem_hiddenIcons hshown), hchosen, hagain]
    exact h.shown icon hshown
  · intro icon hhidden hmem
    rw [hchosen] at hmem
    exact hlist.subset (h.hidden icon hhidden hmem)

/-- What is on the list when the device has been unlocked. -/
theorem mem_unlock (h : IconsAlone s.list) :
    icon ∈ icons (unlock s).list ↔
      (icon ∈ hiddenIcons ∨ icon ∈ icons s.list) ∧
        (s.addedBackIcon = true ∨ icon ∉ shownIcons) := by
  have hicons := (@IconsAlone.onReceive ⟨s.list, s.addedBackIcon⟩ h).1
  have hlist : (unlock s).list = (onReceive ⟨s.list, s.addedBackIcon⟩).iconBlacklist := rfl
  rw [hlist, hicons]
  cases s.addedBackIcon with
  | true => simp [hiddenIcons, or_assoc, or_left_comm]
  | false =>
      simp only [hiddenIcons, shownIcons]
      grind

theorem addedBackIcon_unlock (s : State) : (unlock s).addedBackIcon = true := by
  unfold unlock onReceive
  dsimp only
  split
  · assumption
  · rfl

theorem Inv.unlock (h : Inv s) : Inv (unlock s) where
  alone := (@IconsAlone.onReceive ⟨s.list, s.addedBackIcon⟩ h.alone).2
  first _ := addedBackIcon_unlock s
  kept := by
    have hagain : (StatusBar.unlock s).shownAgain = (s.shownAgain || !s.addedBackIcon) := rfl
    constructor
    · intro icon hhidden hshown
      rw [mem_unlock h.alone]
      have hothers := h.kept.others icon hhidden hshown
      constructor
      · rintro ⟨hmem, -⟩
        exact hothers.mp (hmem.resolve_left hhidden)
      · intro hmem
        exact ⟨.inr (hothers.mpr hmem), .inr hshown⟩
    · intro icon hshown
      have hhidden := not_mem_hiddenIcons hshown
      rw [mem_unlock h.alone, hagain, or_iff_right hhidden, h.kept.shown icon hshown]
      have hchosen : (StatusBar.unlock s).chosen = s.chosen := rfl
      rw [hchosen]
      cases s.addedBackIcon <;> simp [hshown]
    · intro icon hhidden _
      exact (mem_unlock h.alone).mpr ⟨.inl hhidden, .inr (not_mem_shownIcons hhidden)⟩

theorem Inv.of_hides (h : Inv s) (hlist : Hides s.list s'.list) (hchosen : s'.chosen = s.chosen)
    (hagain : s'.shownAgain = s.shownAgain) (hadded : s'.addedBackIcon = s.addedBackIcon) :
    Inv s' where
  kept := h.kept.of_hides hlist hchosen hagain
  alone := hlist.alone
  first := by
    rw [hagain, hadded]
    exact h.first

theorem Inv.step (h : Inv s) (hchoice : ChoosesAlone s e) (hstep : step s e = .ok s') : Inv s' := by
  cases e with
  | unlocked =>
      cases hstep
      exact h.unlock
  | serviceStarted =>
      cases hstep
      exact h.of_hides (Hides.refl h.alone) rfl rfl rfl
  | bluetooth e =>
      cases hstep
      exact h.of_hides (h.alone.hides_bluetooth e) rfl rfl rfl
  | listChosen list =>
      cases hstep
      exact {
        kept := ⟨fun _ _ _ => Iff.rfl, fun _ _ => by simp [State.list], fun _ _ hmem => hmem⟩
        alone := hchoice list rfl
        first := fun hagain => by cases hagain }

theorem Inv.staysKept (h : Inv s) (hchoice : ChoosesAlone s e) : StaysKept s e := by
  intro s' hstep
  refine ⟨(h.step hchoice hstep).kept, ?_, ?_⟩
  · rintro rfl
    cases hstep
    refine ⟨fun icon hicon => ?_, addedBackIcon_unlock s⟩
    exact (mem_unlock h.alone).mpr ⟨.inl hicon, .inr (not_mem_shownIcons hicon)⟩
  · intro hadded
    cases e with
    | unlocked =>
        cases hstep
        refine ⟨addedBackIcon_unlock s, fun hagain => ?_⟩
        have hsame : (StatusBar.unlock s).shownAgain = (s.shownAgain || !s.addedBackIcon) := rfl
        rw [hsame, hadded] at hagain
        simpa using hagain
    | serviceStarted =>
        cases hstep
        exact ⟨hadded, id⟩
    | bluetooth e =>
        cases hstep
        exact ⟨hadded, id⟩
    | listChosen list =>
        cases hstep
        exact ⟨hadded, fun hagain => by cases hagain⟩

/-- **The user's choice stays.** In every run, after each step, an icon is on the list if the user
has left it there, but for the two that the app hides and the two that it shows once, when the
device is unlocked for the first time: whoever hides those again finds them hidden ever after. -/
theorem choice_stays {list : Option String} (halone : IconsAlone list) (evs : List Event)
    (hchoice : EveryStep step ChoosesAlone (.initial list) evs) :
    EveryStep step StaysKept (.initial list) evs := by
  refine EveryStep.imp (P := Inv) ?_ ?_ ?_ hchoice
  · intro s e s' h hchoice hstep
    exact h.step hchoice hstep
  · intro s e h hchoice
    exact h.staysKept hchoice
  · exact {
      kept := ⟨fun _ _ _ => Iff.rfl,
        fun _ _ => by simp [State.list, State.initial, Bluetooth.State.start],
        fun _ _ hmem => hmem⟩
      alone := halone
      first := fun hagain => by cases hagain }

/-- The alarm clock is hidden by the user after the first boot. -/
theorem choice_stays_alarm_clock :
    EveryStep step StaysKept (.initial none) [.unlocked, .bluetooth (.stateChanged 12),
      .listChosen (some "rotate,alarm_clock"), .serviceStarted, .unlocked] := by
  apply choice_stays
  · unfold IconsAlone StandsAlone
    decide +kernel
  · refine ⟨?_, ?_, ?_, ?_, ?_, trivial⟩
    all_goals
      intro list hlist
      cases hlist
    unfold IconsAlone StandsAlone
    decide +kernel

end VendorRs.StatusBar
