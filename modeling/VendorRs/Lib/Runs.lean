import Mathlib.Tactic.Common

/-!
# Runs of a step function that may fail

A system is given by one function `step : σ → ε → Except τ σ`: the state, the next event, and either
the state after the event or a failure that ends the run. Nothing else is assumed, so the same rules
serve a service driven by callbacks, a message queue, or two processes under a scheduler (the event
then says who moves).

* A run is a list of events, taken one after the other until one fails. `EveryStep G` says that each
  of them meets `G` *in the state it is taken in*. Both what is promised of a run ("the state after
  this step is fine") and what it needs ("this step does not take the bad branch") are predicates of
  that shape.
* `EveryStep.imp` is the invariant rule: a condition under which single steps keep an invariant and
  meet `G` makes every step of a run meet `G`.
* `everyStep_iff` is the rule behind every "holds exactly when" result: under an invariant that good
  steps keep, two step predicates that agree on single steps agree on whole runs.
-/

namespace Runs

variable {σ ε τ : Type*} (step : σ → ε → Except τ σ)

/-- Each event of the run meets `G` in the state in which it is taken. A failing step is still
required to meet `G`; nothing is asked of the events after it, since they never happen. -/
def EveryStep (G : σ → ε → Prop) : σ → List ε → Prop
  | _, [] => True
  | s, e :: es => G s e ∧
      match step s e with
      | .ok s' => EveryStep G s' es
      | .error _ => True

instance EveryStep.decidable (G : σ → ε → Prop) [∀ s e, Decidable (G s e)] :
    ∀ s es, Decidable (EveryStep step G s es)
  | _, [] => inferInstanceAs (Decidable True)
  | s, e :: es =>
      have : Decidable (match step s e with
          | .ok s' => EveryStep step G s' es
          | .error _ => True) :=
        match step s e with
        | .ok s' => EveryStep.decidable G s' es
        | .error _ => inferInstanceAs (Decidable True)
      inferInstanceAs (Decidable (G s e ∧ _))

/-- What is said of the state a step returns in can be checked by taking the step. -/
instance decidableForallOk (x : Except τ σ) (P : σ → Prop) [∀ s, Decidable (P s)] :
    Decidable (∀ s, x = .ok s → P s) :=
  match x with
  | .ok s =>
      decidable_of_iff (P s) ⟨fun h _ hs => Except.ok.inj hs ▸ h, fun h => h s rfl⟩
  | .error _ => isTrue fun _ h => nomatch h

variable {step} {G C : σ → ε → Prop} {s s' : σ} {e : ε} {es : List ε}

/-! ## Unfolding along one event -/

@[simp] theorem everyStep_nil : EveryStep step G s [] := trivial

theorem everyStep_cons_ok (h : step s e = .ok s') :
    EveryStep step G s (e :: es) ↔ G s e ∧ EveryStep step G s' es := by
  simp only [EveryStep, h]

theorem everyStep_cons :
    EveryStep step G s (e :: es) ↔
      G s e ∧ ∀ s', step s e = .ok s' → EveryStep step G s' es := by
  cases h : step s e with
  | ok s₁ => simp [EveryStep, h]
  | error t => simp [EveryStep, h]

/-! ## Invariants along a run -/

/-- Under an invariant, a condition on single steps that gives `G` gives it along the run. -/
theorem EveryStep.imp {P : σ → Prop}
    (keep : ∀ s e s', P s → C s e → step s e = .ok s' → P s')
    (good : ∀ s e, P s → C s e → G s e)
    (hs : P s) (hC : EveryStep step C s es) : EveryStep step G s es := by
  induction es generalizing s with
  | nil => trivial
  | cons e es ih =>
      obtain ⟨hCe, hCes⟩ := everyStep_cons.mp hC
      apply everyStep_cons.mpr
      constructor
      · exact good s e hs hCe
      · intro s₁ h₁
        apply ih
        · exact keep s e s₁ hs hCe h₁
        · exact hCes s₁ h₁

theorem everyStep_and :
    EveryStep step (fun s e => G s e ∧ C s e) s es ↔
      EveryStep step G s es ∧ EveryStep step C s es := by
  induction es generalizing s with
  | nil => simp
  | cons e es ih =>
      simp only [everyStep_cons, ih]
      constructor
      · rintro ⟨⟨hG, hC⟩, h⟩
        refine ⟨⟨hG, ?_⟩, hC, ?_⟩
        · intro s' hs'
          exact (h s' hs').1
        · intro s' hs'
          exact (h s' hs').2
      · rintro ⟨⟨hG, h₁⟩, hC, h₂⟩
        refine ⟨⟨hG, hC⟩, ?_⟩
        intro s' hs'
        exact ⟨h₁ s' hs', h₂ s' hs'⟩

/-- **Two step predicates that agree on single steps agree on runs**, as long as the steps that
meet them keep the invariant under which they agree. `B` is what the runs in question are known to
satisfy anyway. -/
theorem everyStep_iff {P : σ → Prop} {B : σ → ε → Prop}
    (keep : ∀ s e s', P s → B s e → C s e → step s e = .ok s' → P s')
    (agree : ∀ s e, P s → B s e → (G s e ↔ C s e))
    (hs : P s) (hB : EveryStep step B s es) :
    EveryStep step G s es ↔ EveryStep step C s es := by
  constructor
  · -- a step that meets `G` meets `C`, so it keeps the invariant too
    intro hG
    refine EveryStep.imp (C := fun s e => B s e ∧ G s e) ?_ ?_ hs (everyStep_and.mpr ⟨hB, hG⟩)
    · rintro s e s' hP ⟨hBe, hGe⟩ h
      exact keep s e s' hP hBe ((agree s e hP hBe).mp hGe) h
    · rintro s e hP ⟨hBe, hGe⟩
      exact (agree s e hP hBe).mp hGe
  · intro hC
    refine EveryStep.imp (C := fun s e => B s e ∧ C s e) ?_ ?_ hs (everyStep_and.mpr ⟨hB, hC⟩)
    · rintro s e s' hP ⟨hBe, hCe⟩ h
      exact keep s e s' hP hBe hCe h
    · rintro s e hP ⟨hBe, hCe⟩
      exact (agree s e hP hBe).mpr hCe

/-- What holds of every event, in whatever state it is taken. -/
theorem everyStep_of_forall_mem {Q : ε → Prop} (h : ∀ e ∈ es, Q e) :
    EveryStep step (fun _ e => Q e) s es := by
  induction es generalizing s with
  | nil => trivial
  | cons e es ih =>
      obtain ⟨he, hes⟩ := List.forall_mem_cons.mp h
      apply everyStep_cons.mpr
      refine ⟨he, ?_⟩
      intro s' _
      exact ih hes

theorem everyStep_true : EveryStep step (fun _ _ => True) s es :=
  everyStep_of_forall_mem (Q := fun _ => True) fun _ _ => trivial

/-! ## The state a run ends in -/

/-- The state after the last event, or the failure that ended the run before it. -/
def endState (step : σ → ε → Except τ σ) : σ → List ε → Except τ σ
  | s, [] => .ok s
  | s, e :: es =>
      match step s e with
      | .ok s' => endState step s' es
      | .error t => .error t

theorem endState_cons_ok (h : endState step s (e :: es) = .ok s') :
    ∃ s₁, step s e = .ok s₁ ∧ endState step s₁ es = .ok s' := by
  rw [endState] at h
  split at h
  · next s₁ h₁ => exact ⟨s₁, h₁, h⟩
  · cases h

/-- The invariant rule for the state a run ends in. -/
theorem EveryStep.endState {P : σ → Prop}
    (keep : ∀ s e s', P s → C s e → step s e = .ok s' → P s')
    (hs : P s) (hC : EveryStep step C s es) (h : Runs.endState step s es = .ok s') : P s' := by
  induction es generalizing s with
  | nil =>
      cases h
      exact hs
  | cons e es ih =>
      obtain ⟨s₁, h₁, h⟩ := endState_cons_ok h
      obtain ⟨hCe, hCes⟩ := (everyStep_cons_ok h₁).mp hC
      exact ih (keep s e s₁ hs hCe h₁) hCes h

end Runs
