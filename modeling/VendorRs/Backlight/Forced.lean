import VendorRs.Lib.Runs
import VendorRs.Backlight.Basic

/-!
# A light that is forced on

In forced mode no key press changes anything, but callbacks posted before the mode was entered are
still to come, and `buttonsBacklightEnabled` switches the key handler on again. `forced_lit_iff`
finds them to be the only danger: the light is on whenever it is forced and the screen is on, if and
only if no callback puts it out then.
-/

namespace VendorRs.Backlight

open Java Runs

/-- The light is on if it is forced and the screen is on. -/
def Lit (s : State) : Prop :=
  s.buttonsBacklightControlForced = true → s.screenOn = true → s.backlightOn = "true"

/-- The step leads to a state where the light is on if it is to be. -/
def StaysLit (s : State) (e : Event) : Prop := ∀ s', step s e = .ok s' → Lit s'

/-- No callback runs that counts down to zero while the light is forced and the screen is on. -/
def NoneCountsDown (s : State) : Event → Prop
  | .callback => s.looper.deliver ≠ none → s.buttonsBacklightControlForced = true →
      s.screenOn = true → 0 < toInt (s.clickToShutdown - 1)
  | _ => True

instance (s : State) : Decidable (Lit s) := inferInstanceAs (Decidable (_ → _ → _))

instance (s : State) (e : Event) : Decidable (StaysLit s e) :=
  decidableForallOk (step s e) Lit

instance (s : State) : ∀ e, Decidable (NoneCountsDown s e)
  | .callback => inferInstanceAs (Decidable (_ → _ → _ → _))
  | .keyDown _ | .keyUp _ | .wait _ | .screenOff | .screenOn | .setForced _ | .setEnabled _
  | .setTimeout _ => inferInstanceAs (Decidable True)

variable {s s' : State} {e : Event}

theorem lit_readForced (s : State) : Lit (readForced s) := by
  unfold readForced
  split
  · intro _ _
    rfl
  · intro hforced
    cases hforced

theorem lit_connected (h : onServiceConnected s = .ok s') : Lit s' := by
  simp only [onServiceConnected, bind_eq_ok] at h
  obtain ⟨s₁, -, h⟩ := h
  cases h
  exact lit_readForced s₁

/-- A callback puts the light out exactly if it counts down to zero. -/
theorem lit_runCallback_iff (h : Lit s) : Lit (runCallback s) ↔ NoneCountsDown s .callback := by
  unfold runCallback NoneCountsDown
  split
  · next looper hdeliver =>
      unfold shutdown
      dsimp only
      split
      · next hcount =>
          constructor
          · intro hlit _ hforced hon
            have hfalse : "false" = "true" := hlit hforced hon
            exact absurd hfalse (by decide)
          · intro hnone hforced hon
            have := hnone (by simp [hdeliver]) hforced hon
            omega
      · next hcount =>
          -- other presses are still waited for
          refine iff_of_true h ?_
          intro _ _ _
          omega
  · next hdeliver =>
      refine iff_of_true h ?_
      intro hsome
      exact absurd hdeliver hsome

/-- Every other step leaves a forced light on, or lights it. -/
theorem lit_step (h : Lit s) (he : e ≠ .callback) (hok : step s e = .ok s') : Lit s' := by
  cases e with
  | callback => exact absurd rfl he
  | keyDown key =>
      cases hok
      unfold handleKeyDown
      split
      · intro _ _
        rfl
      · exact h
  | keyUp key =>
      cases hok
      unfold handleKeyUp
      split <;> exact h
  | wait ms => cases hok; exact h
  | screenOff =>
      cases hok
      intro _ hon
      cases hon
  | screenOn =>
      cases hok
      intro hforced _
      exact if_pos hforced
  | setForced value =>
      simp only [step] at hok
      split at hok
      · cases hok; exact h
      · cases hok; exact lit_readForced _
  | setEnabled value =>
      simp only [step] at hok
      split at hok <;> cases hok <;> exact h
  | setTimeout value =>
      simp only [step, readTimeout] at hok
      split at hok
      · cases hok; exact h
      · obtain ⟨timeout, -, hok⟩ := bind_eq_ok.mp hok
        cases hok
        exact h

theorem staysLit_iff (h : Lit s) : StaysLit s e ↔ NoneCountsDown s e := by
  by_cases he : e = .callback
  · subst he
    rw [← lit_runCallback_iff h]
    constructor
    · intro hstays
      exact hstays _ rfl
    · intro hlit s' hok
      cases hok
      exact hlit
  · have hnone : NoneCountsDown s e := by
      cases e with
      | callback => exact absurd rfl he
      | _ => trivial
    refine iff_of_true ?_ hnone
    intro s' hok
    exact lit_step h he hok

/-- **The light is on whenever it is forced and the screen is on, if and only if no callback counts
down to zero then.** -/
theorem forced_lit_iff (forced enabled : Option Bool) (screenOn : Bool) (timeout : Option String)
    (backlightOn : String) (s : State) (evs : List Event)
    (hconnected :
      onServiceConnected (.created forced enabled timeout screenOn backlightOn) = .ok s) :
    Lit s ∧ (EveryStep step StaysLit s evs ↔ EveryStep step NoneCountsDown s evs) := by
  have hlit := lit_connected hconnected
  refine ⟨hlit, ?_⟩
  -- the light being on where it is to be is its own invariant
  apply everyStep_iff (P := Lit) (B := fun _ _ => True)
  · intro s e s' h _ hnone hok
    exact (staysLit_iff h).mpr hnone s' hok
  · intro s e h _
    exact staysLit_iff h
  · exact hlit
  · exact everyStep_true

/-- A key is pressed, the light is forced on, and the callback of the key press puts it out. -/
theorem forced_light_put_out :
    onServiceConnected (.created none (some true) (some "1500") true "false") =
      .ok (.controlled 1500 true) ∧
    ¬ EveryStep step StaysLit (.controlled 1500 true)
      [.keyDown .back, .keyUp .back, .setForced true, .wait 1500, .callback] := by
  decide +kernel

/-- Forced on after the callback, the light stays on. -/
theorem forced_lit_after_callback :
    EveryStep step StaysLit (.controlled 1500 true)
      [.keyDown .back, .keyUp .back, .wait 1500, .callback, .setForced true, .screenOff,
        .screenOn] :=
  (forced_lit_iff none (some true) true (some "1500") "false" (.controlled 1500 true) _
    (by decide +kernel)).2.mpr (by decide +kernel)

end VendorRs.Backlight
