import VendorRs.GamingMode.Basic

/-!
# What the heads-up setting means

The setting should say that the user wants heads-up notifications and gaming mode does not forbid
them. Four places write it. The two of gaming mode ask for the preference; the two of `MainService`
do not ask for gaming mode, as `manageCapacitiveButtons` does for the keys. `headsUp_agrees_iff`
says when that shows.
-/

namespace VendorRs.GamingMode

open Java Runs

variable {s s' : State} {e : Event}

/-- What the setting should be. -/
def State.wantedHeadsUp (s : State) : String :=
  if s.areHeadsUpEnabled && !s.isGamingModeEnabled then "1" else "0"

/-- The event is one whose handler is to leave the setting right. -/
def Event.writesHeadsUp : Event → Bool
  | .tileClicked | .bootCompleted | .headsUpChanged _ | .serviceConnected => true
  | .tileReset | .brightnessModeChanged _ | .processRestarted => false

/-- The handler returns, and the setting is what it should be. -/
def HeadsUpAgrees (s : State) (e : Event) : Prop :=
  match step s e with
  | .ok s' => e.writesHeadsUp = true → s'.headsUpSetting = some s'.wantedHeadsUp
  | .error _ => False

instance (s : State) (e : Event) : Decidable (HeadsUpAgrees s e) :=
  match h : step s e with
  | .ok s' =>
      decidable_of_iff (e.writesHeadsUp = true → s'.headsUpSetting = some s'.wantedHeadsUp)
        (by simp only [HeadsUpAgrees, h])
  | .error _ => isFalse (by simp only [HeadsUpAgrees, h, not_false_eq_true])

/-- `disableGamingMode` writes the setting only if heads-up notifications are enabled; if they are
not, the setting has to say so already. -/
def State.offAlready (s : State) : Prop :=
  s.areHeadsUpEnabled = false → s.headsUpSetting = some "0"

/-- The step does not show heads-up notifications over gaming mode: while it is enabled, the
preference is not turned on and `MainService` does not connect with it on. -/
def RespectsGaming (s : State) : Event → Prop
  | .tileClicked => s.tileActive = true → s.offAlready
  | .bootCompleted => s.offAlready
  | .headsUpChanged value => s.isGamingModeEnabled = true → value.getD true = false
  | .serviceConnected => s.isGamingModeEnabled = true → s.areHeadsUpEnabled = false
  | .tileReset | .brightnessModeChanged _ | .processRestarted => True

theorem disable_agrees_iff (h : Remembers s) :
    (∀ s', disableGamingMode s = .ok s' → s'.headsUpSetting = some s'.wantedHeadsUp) ↔
      s.offAlready := by
  obtain ⟨files, heq⟩ := disableGamingMode_eq h
  rw [heq]
  simp only [Except.ok.injEq, forall_eq', State.wantedHeadsUp, State.offAlready,
    State.areHeadsUpEnabled, Bool.not_false, Bool.and_true]
  by_cases hheads : s.headsUpNotificationsEnabled.getD true = true
  · simp [hheads]
  · simp [hheads]

theorem updateHeadsUp_agrees_iff (s : State) :
    (updateHeadsUp s).headsUpSetting = some (updateHeadsUp s).wantedHeadsUp ↔
      (s.isGamingModeEnabled = true → s.areHeadsUpEnabled = false) := by
  rw [updateHeadsUp_eq]
  simp only [State.wantedHeadsUp, State.areHeadsUpEnabled, Option.some.injEq]
  by_cases hheads : s.headsUpNotificationsEnabled.getD true = true
  · cases s.isGamingModeEnabled with
    | false => simp [hheads]
    | true => simp [hheads]
  · simp [hheads]

theorem headsUpAgrees_iff_forall (h : Sound s) (hwrites : e.writesHeadsUp = true) :
    HeadsUpAgrees s e ↔
      ∀ s', step s e = .ok s' → s'.headsUpSetting = some s'.wantedHeadsUp := by
  obtain ⟨s₁, hs₁, -⟩ := step_sound h e
  simp [HeadsUpAgrees, hs₁, hwrites]

/-- One step. -/
theorem headsUpAgrees_iff (h : Sound s) (e : Event) : HeadsUpAgrees s e ↔ RespectsGaming s e := by
  cases e with
  | tileClicked =>
      rw [headsUpAgrees_iff_forall h rfl]
      show (∀ s', onClick s = .ok s' → _) ↔ _
      rw [onClick]
      by_cases hactive : s.tileActive = true
      · have hdisable := disable_agrees_iff (s := { s with tileActive := false })
          ⟨h.mode, h.sessionMode, h.saved⟩
        rw [if_pos hactive]
        exact hdisable.trans (imp_iff_right hactive).symm
      · -- gaming mode begins, and takes the setting down whatever the preference
        obtain ⟨files, heq⟩ := enableGamingMode_eq { s with tileActive := true }
        rw [if_neg hactive, heq]
        simp [RespectsGaming, hactive, State.wantedHeadsUp]
  | bootCompleted =>
      rw [headsUpAgrees_iff_forall h rfl]
      exact disable_agrees_iff h.toRemembers
  | headsUpChanged value =>
      exact (imp_iff_right rfl).trans
        (updateHeadsUp_agrees_iff { s with headsUpNotificationsEnabled := value })
  | serviceConnected => exact (imp_iff_right rfl).trans (updateHeadsUp_agrees_iff s)
  | tileReset => simp [HeadsUpAgrees, step, Event.writesHeadsUp, RespectsGaming]
  | brightnessModeChanged mode =>
      simp [HeadsUpAgrees, step, Event.writesHeadsUp, RespectsGaming]
  | processRestarted => simp [HeadsUpAgrees, step, Event.writesHeadsUp, RespectsGaming]

/-- **When the heads-up setting has one meaning**: along every run, exactly while no step of
`MainService` turns it on over gaming mode. -/
theorem headsUp_agrees_iff (d : Device) (evs : List Event) :
    EveryStep step HeadsUpAgrees (State.initial d) evs ↔
      EveryStep step RespectsGaming (State.initial d) evs := by
  apply everyStep_iff (P := Sound) (B := fun _ _ => True) ?_ ?_ (sound_initial d) everyStep_true
  · intro s e s' h _ _ hstep
    obtain ⟨s₁, hs₁, hsound⟩ := step_sound h e
    rw [hs₁] at hstep
    cases hstep
    exact hsound
  · intro s e h _
    exact headsUpAgrees_iff h e

/-- No preference, setting or file is there yet. -/
def Device.blank : Device := ⟨false, none, none, none, fun _ => none⟩

/-- The user turns the preference off and on again while a game is running. -/
theorem headsUp_on_over_gaming :
    ¬ EveryStep step HeadsUpAgrees (State.initial .blank)
      [.serviceConnected, .tileClicked, .headsUpChanged (some false),
        .headsUpChanged (some true)] := by
  decide +kernel

end VendorRs.GamingMode
