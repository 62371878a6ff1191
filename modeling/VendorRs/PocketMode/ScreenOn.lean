import VendorRs.Lib.Runs
import VendorRs.PocketMode.Basic

/-!
# Switching the screen on undoes what switching it off did

After `SCREEN_ON` nothing should be left of pocket mode: no listener, and no node at `"1"`. What
`SCREEN_ON` undoes depends on the settings as they are then, and not on those with which it was
done. `undone_iff` says that this is the only way something is left, for all orders of events and
whatever the nodes hold when the service is started.
-/

namespace VendorRs.PocketMode

open Java Utils Runs

/-- The nodes that pocket mode and `tp_f4` set. -/
def nodes : List String := [cheeseburgerFile, dumplingFile, cheeseburgerTouchFile, dozeWakeupNode]

/-- Nothing is left of the time with the screen off. -/
def Undone (s : State) : Prop := s.listening = false ∧ ∀ path ∈ nodes, s.files path ≠ some "1"

def StaysUndone (s : State) (e : Event) : Prop :=
  ∀ s', step s e = .ok s' → s'.screenOn = true → Undone s'

/-- The nodes that the service sets when something is near, and resets when nothing is. -/
def Tells (s : State) (path : String) : Prop :=
  (s.files s.fpcFile).isSome = true ∧
    (path = s.fpcFile ∨ (s.doubleTapToWakeEnabled = true ∧ path = cheeseburgerTouchFile))

/-- With the settings as they are, `SCREEN_ON` resets the node. -/
def Resets (s : State) (path : String) : Prop :=
  (s.isAlwaysOnDisplayEnabled = true ∧ path = dozeWakeupNode) ∨
    (s.isPocketModeEnabled = true ∧ Tells s path)

/-- `SCREEN_ON` finds pocket mode still enabled if the listener is registered, and resets every node
that is at `"1"`. -/
def SettingsKept (s : State) : Event → Prop
  | .screenOn =>
      (s.listening = true → s.isPocketModeEnabled = true) ∧
        ∀ path ∈ nodes, s.files path = some "1" → Resets s path
  | _ => True

instance (s : State) : Decidable (Undone s) := inferInstanceAs (Decidable (_ ∧ _))

instance (s : State) (path : String) : Decidable (Tells s path) :=
  inferInstanceAs (Decidable (_ ∧ _))

instance (s : State) (path : String) : Decidable (Resets s path) :=
  inferInstanceAs (Decidable (_ ∨ _))

instance (s : State) (e : Event) : Decidable (StaysUndone s e) :=
  decidableForallOk (step s e) fun s' => s'.screenOn = true → Undone s'

structure Inv (s : State) : Prop where
  /-- `ProximitySensor` has been called. -/
  hasSensor : s.isPocketModeEnabled = true → s.hasSensor = true
  undone : s.screenOn = true → Undone s

variable {s s' : State} {e : Event} {path : String} {isNear : Bool}

/-! ## Writing the nodes -/

theorem setFPProximityState_files (s : State) (isNear : Bool) (path : String) :
    (setFPProximityState s isNear).files path =
      if Tells s path then (s.files path).map fun _ => if isNear then "1" else "0"
      else s.files path := by
  unfold setFPProximityState Tells
  by_cases hfile : (s.files s.fpcFile).isSome = true
  · simp only [hfile, true_and]
    cases htap : s.doubleTapToWakeEnabled with
    | false =>
        simp only [Bool.false_and, Bool.false_eq_true, if_false, false_and, or_false]
        rfl
    | true =>
        cases isNear with
        | true => simpa using writeToFile_twice
        | false => simpa using writeToFile_twice
  · simp [hfile]

/-- Nothing else is changed. -/
theorem setFPProximityState_eq (s : State) (isNear : Bool) :
    setFPProximityState s isNear = { s with files := (setFPProximityState s isNear).files } := by
  unfold setFPProximityState
  dsimp only
  split_ifs <;> rfl

/-- `disable` after `tp_f4` has been written or not. -/
theorem disable_files {files : Files} (hsensor : s.hasSensor = true)
    (hsome : (files s.fpcFile).isSome = (s.files s.fpcFile).isSome) :
    ∃ files', disable { s with files := files } =
        .ok { s with listening := false, files := files' } ∧
      ∀ path, files' path =
        if Tells s path then (files path).map fun _ => "0" else files path := by
  have hdisable : disable { s with files := files } =
      .ok (setFPProximityState { s with files := files, listening := false } false) :=
    if_pos hsensor
  rw [hdisable, setFPProximityState_eq]
  refine ⟨_, rfl, ?_⟩
  intro path
  rw [setFPProximityState_files]
  have htells : Tells { s with files := files, listening := false } path ↔ Tells s path := by
    show (files s.fpcFile).isSome = true ∧ _ ↔ _
    rw [hsome]
    rfl
  simp only [htells]
  rfl

/-- The files after `SCREEN_ON` has dealt with `tp_f4`. -/
def State.filesWithoutDoze (s : State) : Files :=
  if s.isAlwaysOnDisplayEnabled then writeToFile s.files dozeWakeupNode "0" else s.files

theorem onScreenOn_eq (s : State) :
    onScreenOn s =
      if s.isPocketModeEnabled then
        disable { s with screenOn := true, files := s.filesWithoutDoze }
      else .ok { s with screenOn := true, files := s.filesWithoutDoze } := by
  unfold onScreenOn State.filesWithoutDoze
  by_cases hdoze : s.isAlwaysOnDisplayEnabled = true
  · have hdoze' : State.isAlwaysOnDisplayEnabled { s with screenOn := true } = true := hdoze
    simp only [hdoze, hdoze', if_true]
    rfl
  · have hdoze' : ¬ State.isAlwaysOnDisplayEnabled { s with screenOn := true } = true := hdoze
    simp only [if_neg hdoze, if_neg hdoze']
    rfl

/-- What `SCREEN_ON` does. -/
theorem onScreenOn_spec (hsensor : s.isPocketModeEnabled = true → s.hasSensor = true) :
    ∃ files', onScreenOn s = .ok { s with
        screenOn := true
        listening := s.listening && !s.isPocketModeEnabled
        files := files' } ∧
      ∀ path, files' path = if Resets s path then (s.files path).map fun _ => "0"
        else s.files path := by
  have hdoze : ∀ path, s.filesWithoutDoze path =
      if s.isAlwaysOnDisplayEnabled = true ∧ path = dozeWakeupNode then
        (s.files path).map fun _ => "0"
      else s.files path := by
    intro path
    unfold State.filesWithoutDoze
    cases s.isAlwaysOnDisplayEnabled <;> simp [writeToFile]
  rw [onScreenOn_eq]
  cases hpocket : s.isPocketModeEnabled with
  | false =>
      refine ⟨s.filesWithoutDoze, by simp, ?_⟩
      intro path
      rw [hdoze]
      simp only [Resets, hpocket, Bool.false_eq_true, false_and, or_false]
  | true =>
      have hsome : (s.filesWithoutDoze s.fpcFile).isSome = (s.files s.fpcFile).isSome := by
        unfold State.filesWithoutDoze
        split <;> simp
      obtain ⟨files', hok, hfiles⟩ :=
        disable_files (s := { s with screenOn := true }) (hsensor hpocket) hsome
      refine ⟨files', ?_, ?_⟩
      · simpa using hok
      · intro path
        have htells : Tells { s with screenOn := true } path ↔ Tells s path := Iff.rfl
        rw [hfiles, hdoze]
        simp only [htells, Resets, hpocket, true_and]
        by_cases hdozes : s.isAlwaysOnDisplayEnabled = true ∧ path = dozeWakeupNode
        · simp only [hdozes, and_self, if_true, true_or]
          split <;> simp [Function.comp_def]
        · simp only [hdozes, if_false, false_or]

/-- A node that is not at `"1"` stays so, and one that is has to be reset. -/
theorem reset_ne_iff {content : Option String} {P : Prop} [Decidable P] :
    (if P then content.map fun _ => "0" else content) ≠ some "1" ↔ (content = some "1" → P) := by
  by_cases hP : P
  · cases content <;> simp [hP]
  · simp [hP]

/-! ## Events -/

theorem Inv.screenOn (h : Inv s) :
    ∃ s', onScreenOn s = .ok s' ∧ s'.screenOn = true ∧
      (s'.isPocketModeEnabled = true → s'.hasSensor = true) ∧
      (Undone s' ↔ SettingsKept s .screenOn) := by
  obtain ⟨files', hok, hfiles⟩ := onScreenOn_spec h.hasSensor
  refine ⟨_, hok, rfl, h.hasSensor, ?_⟩
  unfold Undone SettingsKept
  apply and_congr
  · cases s.listening <;> simp
  · apply forall₂_congr
    intro path _
    rw [← reset_ne_iff, ← hfiles]

/-- Whatever `SCREEN_OFF` does is to be undone. -/
theorem onScreenOff_screenOn (hok : onScreenOff s = .ok s') :
    s'.screenOn = false ∧ s'.pocketModeEnabled = s.pocketModeEnabled ∧
      s'.hasSensor = s.hasSensor := by
  unfold onScreenOff enable at hok
  dsimp only at hok
  split_ifs at hok <;> cases hok <;> exact ⟨rfl, rfl, rfl⟩

theorem Inv.screenOff (h : Inv s) (hok : onScreenOff s = .ok s') : Inv s' := by
  obtain ⟨hscreen, hpocket, hsensor⟩ := onScreenOff_screenOn hok
  refine ⟨?_, ?_⟩
  · rw [State.isPocketModeEnabled, hpocket, hsensor]
    exact h.hasSensor
  · intro hon
    cases hscreen.symm.trans hon

/-- There are no sensor events after `SCREEN_ON`. -/
theorem Inv.sensorChanged (h : Inv s) (hlistening : s.listening = true) :
    Inv (onSensorChanged s isNear) := by
  rw [onSensorChanged, setFPProximityState_eq]
  refine ⟨h.hasSensor, ?_⟩
  intro hon
  cases hlistening.symm.trans (h.undone hon).1

/-- Enabling pocket mode only looks for the node. -/
theorem inv_proximitySensor (hundone : s.screenOn = true → Undone s) : Inv (proximitySensor s) := by
  unfold proximitySensor
  dsimp only
  split_ifs <;> exact ⟨fun _ => rfl, hundone⟩

theorem Inv.setPocketMode (h : Inv s) {value : Bool} :
    Inv (onPocketModeChanged { s with pocketModeEnabled := some value }) := by
  unfold onPocketModeChanged
  split
  · exact inv_proximitySensor h.undone
  · next hdisabled => exact ⟨fun henabled => absurd henabled hdisabled, h.undone⟩

theorem Inv.step (h : Inv s) (hkept : SettingsKept s e) (hok : step s e = .ok s') : Inv s' := by
  cases e with
  | screenOff => exact h.screenOff hok
  | screenOn =>
      obtain ⟨s₁, hok₁, -, hsensor, hundone⟩ := h.screenOn
      cases hok₁.symm.trans hok
      exact ⟨hsensor, fun _ => hundone.mpr hkept⟩
  | sensorChanged isNear =>
      cases hok
      split
      · next hlistening => exact h.sensorChanged hlistening
      · exact h
  | setPocketMode value =>
      simp only [PocketMode.step] at hok
      split at hok <;> cases hok
      · exact h
      · exact h.setPocketMode
  | setDoubleTapToWake value =>
      cases hok
      exact { h with }
  | doubleTapNode content =>
      cases hok
      refine ⟨h.hasSensor, ?_⟩
      intro hon
      obtain ⟨hlistening, hnodes⟩ := h.undone hon
      refine ⟨hlistening, ?_⟩
      intro path hpath
      have hne : path ≠ doubleTapToWakeNode := by
        rintro rfl
        exact absurd hpath (by decide)
      show writeToFile s.files doubleTapToWakeNode content path ≠ some "1"
      rw [writeToFile_of_ne hne]
      exact hnodes path hpath

theorem Inv.staysUndone_iff (h : Inv s) : StaysUndone s e ↔ SettingsKept s e := by
  by_cases hon : e = .screenOn
  · subst hon
    obtain ⟨s', hok, hscreen, -, hundone⟩ := h.screenOn
    rw [← hundone]
    constructor
    · intro hstays
      exact hstays s' hok hscreen
    · intro hundone s₁ hok₁ _
      cases hok.symm.trans hok₁
      exact hundone
  · have hkept : SettingsKept s e := by
      cases e with
      | screenOn => exact absurd rfl hon
      | _ => trivial
    refine iff_of_true ?_ hkept
    intro s' hok
    exact (h.step hkept hok).undone

/-! ## Whole runs -/

theorem inv_connected (pocketModeEnabled : Option Bool) (doubleTapToWake : Option Int)
    (files : Files) : Inv (.connected pocketModeEnabled doubleTapToWake files) := by
  unfold State.connected
  dsimp only
  split
  · exact inv_proximitySensor nofun
  · next hdisabled => exact ⟨fun henabled => absurd henabled hdisabled, nofun⟩

/-- **From each `SCREEN_ON` to the next `SCREEN_OFF` there is no listener and no node at `"1"`, if
and only if `SCREEN_ON` always finds the settings with which it resets what was set.** -/
theorem undone_iff (pocketModeEnabled : Option Bool) (doubleTapToWake : Option Int) (files : Files)
    (evs : List Event) :
    EveryStep step StaysUndone (.connected pocketModeEnabled doubleTapToWake files) evs ↔
      EveryStep step SettingsKept (.connected pocketModeEnabled doubleTapToWake files) evs := by
  apply everyStep_iff (P := Inv) (B := fun _ _ => True)
  · intro s e s' h _ hkept hok
    exact h.step hkept hok
  · intro s e h _
    exact h.staysUndone_iff
  · exact inv_connected _ _ _
  · exact everyStep_true

/-- Pocket mode is disabled while the phone is in the pocket. -/
theorem reader_left_disabled :
    ¬ EveryStep step StaysUndone
      (.connected (some true) none fun path => if path = dumplingFile then none else some "0")
      [.screenOff, .sensorChanged true, .setPocketMode false, .screenOn] := by
  decide +kernel

end VendorRs.PocketMode
