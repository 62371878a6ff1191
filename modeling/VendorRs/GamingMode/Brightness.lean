import VendorRs.GamingMode.Basic

/-!
# The brightness mode comes back

A second `enableGamingMode` within a session would overwrite the mode that is saved. There is none:
a session begins with the tile made active, and a click on an active tile ends it. The other way
round, a tile that is still active when the session is over (the boot receiver has ended it) costs
one click that finds nothing saved and changes nothing.
-/

namespace VendorRs.GamingMode

open Java Runs

variable {s s' : State} {e : Event}

/-- The step runs `disableGamingMode`. -/
def Event.disables (s : State) : Event → Bool
  | .tileClicked => s.tileActive
  | .bootCompleted => true
  | .headsUpChanged _ | .serviceConnected | .tileReset | .brightnessModeChanged _
  | .processRestarted => false

/-- A `disableGamingMode` that ends a session puts back the mode that was in force before it; any
other leaves the mode alone. -/
def RestoresBrightness (s : State) (e : Event) : Prop :=
  e.disables s = true → ∃ s', step s e = .ok s' ∧
    s'.screenBrightnessMode =
      match s.session with
      | some m => some m
      | none => s.screenBrightnessMode

theorem disables_restores (h : Remembers s) :
    ∃ s', disableGamingMode s = .ok s' ∧
      s'.screenBrightnessMode =
        match s.session with
        | some m => some m
        | none => s.screenBrightnessMode := by
  obtain ⟨files, heq⟩ := disableGamingMode_eq h
  refine ⟨_, heq, ?_⟩
  dsimp only
  cases s.session with
  | none => rfl
  | some m => rfl

theorem restoresBrightness_of_sound (h : Sound s) (e : Event) : RestoresBrightness s e := by
  intro hdisables
  cases e with
  | tileClicked =>
      have hactive : s.tileActive = true := hdisables
      show ∃ s', onClick s = .ok s' ∧ _
      rw [onClick, if_pos hactive]
      exact disables_restores (s := { s with tileActive := false })
        ⟨h.mode, h.sessionMode, h.saved⟩
  | bootCompleted => exact disables_restores h.toRemembers
  | headsUpChanged value => cases hdisables
  | serviceConnected => cases hdisables
  | tileReset => cases hdisables
  | brightnessModeChanged mode => cases hdisables
  | processRestarted => cases hdisables

/-- **Gaming mode gives the brightness mode back**, in every run: clicks, boots, restarts of the
process, tiles reset and modes chosen by the user in between. -/
theorem brightness_restored (d : Device) (evs : List Event) :
    EveryStep step RestoresBrightness (State.initial d) evs := by
  apply EveryStep.imp (P := Sound) (C := fun _ _ => True) ?_ ?_ (sound_initial d) everyStep_true
  · intro s e s' h _ hstep
    obtain ⟨s₁, hs₁, hsound⟩ := step_sound h e
    rw [hs₁] at hstep
    cases hstep
    exact hsound
  · intro s e h _
    exact restoresBrightness_of_sound h e

end VendorRs.GamingMode
