import Mathlib.Data.Finset.Card
import VendorRs.Backlight.Timeout

/-!
# A light that goes out again

Once every key is up and every callback has run, nothing is left that would put the light out, so it
should be out by then and the counter back at zero. `Pressing` puts the keys that are down beside
the state, and `settles` says when this works: as long as the presses counted never outnumber the
callbacks that are pending and those that the keys still down will post. A press that is reported
twice is counted twice and waited for once; a key that comes up while `buttonsBacklightControl` is
off posts no callback for the press that was counted while it was on.
-/

namespace VendorRs.Backlight

open Java Runs

/-! ## Keys that are down -/

/-- The service, with the keys that are down. -/
structure Pressing where
  service : State
  held : Finset Key
  deriving DecidableEq

def Pressing.step (p : Pressing) (e : Event) : Outcome State Pressing := do
  let service ← Backlight.step p.service e
  match e with
  | .keyDown key => return ⟨service, insert key p.held⟩
  | .keyUp key => return ⟨service, p.held.erase key⟩
  | _ => return ⟨service, p.held⟩

/-- With no key down and no callback pending, the light is out and no press is counted. -/
def Pressing.Settled (p : Pressing) : Prop :=
  p.held = ∅ → p.service.looper.queue = [] →
    p.service.clickToShutdown = 0 ∧ p.service.backlightOn = "false"

def Settles (p : Pressing) (e : Event) : Prop := ∀ p', p.step e = .ok p' → p'.Settled

/-- The presses that were counted and not waited for yet. The counter is an `int`, and starts again
from below once it has gone through all of its values. -/
def State.presses (s : State) : Int := s.clickToShutdown % 2 ^ 32

/-- A press that is counted leaves no more presses than there are callbacks pending and keys down,
and so does a key that comes up without a callback. -/
def AllAwaited (p : Pressing) : Event → Prop
  | .keyDown key => p.service.buttonsBacklightControl = true →
      p.service.presses + 1 ≤ p.service.looper.queue.length + (insert key p.held).card
  | .keyUp key => p.service.buttonsBacklightControl = false →
      p.service.presses ≤ p.service.looper.queue.length + (p.held.erase key).card
  | _ => True

instance (p : Pressing) : Decidable p.Settled := inferInstanceAs (Decidable (_ → _ → _))

instance (p : Pressing) (e : Event) : Decidable (Settles p e) :=
  decidableForallOk (p.step e) Pressing.Settled

instance (p : Pressing) : ∀ e, Decidable (AllAwaited p e)
  | .keyDown _ => inferInstanceAs (Decidable (_ → _))
  | .keyUp _ => inferInstanceAs (Decidable (_ → _))
  | .callback | .wait _ | .screenOff | .screenOn | .setForced _ | .setEnabled _
  | .setTimeout _ => inferInstanceAs (Decidable True)

/-! ## The invariant -/

structure Pressing.Inv (p : Pressing) : Prop where
  not_forced : p.service.buttonsBacklightControlForced = false
  /-- The counter is an `int`. -/
  counter_int : -2 ^ 31 ≤ p.service.clickToShutdown ∧ p.service.clickToShutdown < 2 ^ 31
  awaited : p.service.presses ≤ p.service.looper.queue.length + p.held.card
  dark : p.service.clickToShutdown = 0 →
    p.service.looper.queue ≠ [] ∨ p.service.backlightOn = "false"

variable {p p' : Pressing} {s s' : State} {e : Event}

theorem Pressing.Inv.settled (h : p.Inv) : p.Settled := by
  intro hheld hqueue
  have hrange := h.counter_int
  have hawaited := h.awaited
  rw [hheld, hqueue, State.presses] at hawaited
  simp only [List.length_nil, Finset.card_empty] at hawaited
  have hzero : p.service.clickToShutdown = 0 := by omega
  refine ⟨hzero, ?_⟩
  rcases h.dark hzero with hne | hlight
  · exact absurd hqueue hne
  · exact hlight

/-! ## Keys -/

theorem card_keys (held : Finset Key) : held.card ≤ 2 := by
  have hsub : held ⊆ {.back, .appSelect} := by
    intro key _
    cases key <;> decide
  exact Finset.card_le_card hsub

theorem Pressing.Inv.keyDown (h : p.Inv) {key : Key} (hawaited : AllAwaited p (.keyDown key)) :
    Pressing.Inv ⟨handleKeyDown p.service, insert key p.held⟩ := by
  have hcard := Finset.card_le_card (Finset.subset_insert key p.held)
  unfold handleKeyDown
  split
  · next hcontrol =>
      have hle := hawaited hcontrol
      have hnonneg : 0 ≤ p.service.presses := Int.emod_nonneg _ (by decide)
      have hemod := toInt_emod (p.service.clickToShutdown + 1)
      have hpresses : toInt (p.service.clickToShutdown + 1) % 2 ^ 32 ≤ p.service.presses + 1 := by
        rw [hemod, State.presses]
        omega
      refine ⟨h.not_forced, toInt_range _, hpresses.trans hle, ?_⟩
      -- a press that brings the counter round to zero has that many callbacks before it
      intro hzero
      left
      intro hnil
      change toInt (p.service.clickToShutdown + 1) = 0 at hzero
      change p.service.looper.queue = [] at hnil
      have hkeys := card_keys (insert key p.held)
      rw [hzero] at hemod
      rw [hnil] at hle
      simp only [State.presses, List.length_nil] at hle
      omega
  · exact { h with
      awaited := by
        have := h.awaited
        show p.service.presses ≤ p.service.looper.queue.length + (insert key p.held).card
        omega }

theorem Pressing.Inv.keyUp (h : p.Inv) {key : Key} (hawaited : AllAwaited p (.keyUp key)) :
    Pressing.Inv ⟨handleKeyUp p.service, p.held.erase key⟩ := by
  unfold handleKeyUp
  split
  · -- one key less is down, and one callback more is pending
    have hcard := Finset.pred_card_le_card_erase (s := p.held) (a := key)
    exact { h with
      awaited := by
        have := h.awaited
        show p.service.presses ≤ ((Looper.enqueue _ () p.service.looper.queue).length : Int) +
          (p.held.erase key).card
        rw [Looper.length_enqueue]
        omega
      dark := by
        intro _
        left
        intro hnil
        have hlength := congrArg List.length hnil
        change (Looper.enqueue _ () p.service.looper.queue).length = 0 at hlength
        rw [Looper.length_enqueue] at hlength
        omega }
  · next hcontrol =>
      have hoff : p.service.buttonsBacklightControl = false := by simpa using hcontrol
      exact { h with awaited := hawaited hoff }

/-! ## Callbacks -/

/-- A callback waits for one press, and never leaves a light on with the counter at zero. -/
theorem shutdown_presses {s : State}
    (hint : -2 ^ 31 ≤ s.clickToShutdown ∧ s.clickToShutdown < 2 ^ 31) :
    ∃ click light, shutdown s = { s with clickToShutdown := click, backlightOn := light } ∧
      (-2 ^ 31 ≤ click ∧ click < 2 ^ 31) ∧ (click = 0 → light = "false") ∧
      (click % 2 ^ 32 ≤ s.presses - 1 ∨ click = 0) := by
  unfold shutdown
  dsimp only
  split
  · refine ⟨0, "false", rfl, by decide, ?_, .inr rfl⟩
    intro _
    rfl
  · next hpos =>
      have hemod := toInt_emod (s.clickToShutdown - 1)
      refine ⟨_, s.backlightOn, rfl, toInt_range _, ?_, .inl ?_⟩
      · intro hzero
        omega
      · -- the counter is not zero, or else one less would not be positive
        have hne : s.clickToShutdown ≠ 0 := by
          intro hzero
          apply hpos
          rw [hzero]
          decide
        rw [hemod, State.presses]
        omega

theorem Pressing.Inv.callback (h : p.Inv) : Pressing.Inv ⟨runCallback p.service, p.held⟩ := by
  unfold runCallback
  split
  · next looper hdeliver =>
      obtain ⟨-, due, -, hqueue⟩ := Looper.deliver_eq_some hdeliver
      obtain ⟨click, light, hshutdown, hint, hdark, hless⟩ :=
        shutdown_presses (s := { p.service with looper := looper }) h.counter_int
      have hawaited := h.awaited
      rw [hqueue, List.length_cons] at hawaited
      rw [hshutdown]
      refine ⟨h.not_forced, hint, ?_, fun hzero => .inr (hdark hzero)⟩
      change click % 2 ^ 32 ≤ (looper.queue.length : Int) + p.held.card
      change click % 2 ^ 32 ≤ p.service.presses - 1 ∨ click = 0 at hless
      rcases hless with hless | rfl <;> omega
  · exact h

/-! ## Preferences and the screen -/

theorem Pressing.Inv.screenOff (h : p.Inv) : Pressing.Inv ⟨onScreenOff p.service, p.held⟩ where
  not_forced := h.not_forced
  counter_int := by
    show (-2 ^ 31 : Int) ≤ 0 ∧ (0 : Int) < 2 ^ 31
    decide
  awaited := by
    show (0 : Int) % 2 ^ 32 ≤ p.service.looper.queue.length + p.held.card
    omega
  dark := by
    intro _
    exact .inr rfl

theorem Pressing.Inv.screenOn (h : p.Inv) : Pressing.Inv ⟨onScreenOn p.service, p.held⟩ := by
  have hsame : (onScreenOn p.service).backlightOn = p.service.backlightOn := by
    simp only [onScreenOn, h.not_forced, Bool.false_eq_true, if_false]
  exact { h with
    dark := by
      intro hzero
      rw [hsame]
      exact h.dark hzero }

/-- The preference `buttonsBacklightEnabledForced` goes off, or is off at the start. -/
theorem Pressing.Inv.readForced {held : Finset Key} (hoff : s.forcedPref ≠ some true)
    (hint : -2 ^ 31 ≤ s.clickToShutdown ∧ s.clickToShutdown < 2 ^ 31)
    (hawaited : s.presses ≤ s.looper.queue.length + held.card) :
    Pressing.Inv ⟨Backlight.readForced s, held⟩ := by
  have hnot : s.forcedPref.getD false = false := by
    cases hpref : s.forcedPref with
    | none => rfl
    | some value =>
        rw [hpref] at hoff
        simpa using hoff
  unfold Backlight.readForced
  rw [hnot]
  refine ⟨rfl, hint, hawaited, ?_⟩
  intro _
  exact .inr rfl

theorem Pressing.inv_connected {forced enabled : Option Bool} {timeout : Option String}
    {screenOn : Bool} {backlightOn : String} (held : Finset Key) (hoff : forced ≠ some true)
    (hconnected :
      onServiceConnected (.created forced enabled timeout screenOn backlightOn) = .ok s) :
    Pressing.Inv ⟨s, held⟩ := by
  simp only [onServiceConnected, readTimeout, bind_eq_ok] at hconnected
  obtain ⟨s₁, ⟨timeoutInt, -, hs₁⟩, hconnected⟩ := hconnected
  cases hs₁
  cases hconnected
  refine .readForced hoff ?_ ?_
  · show (-2 ^ 31 : Int) ≤ 0 ∧ (0 : Int) < 2 ^ 31
    decide
  · show (0 : Int) % 2 ^ 32 ≤ (([] : List (Nat × Unit)).length : Int) + held.card
    simp

/-! ## Whole runs -/

theorem Pressing.Inv.step (h : p.Inv) (hoff : e ≠ .setForced true) (hawaited : AllAwaited p e)
    (hok : p.step e = .ok p') : p'.Inv := by
  cases e with
  | keyDown key => cases hok; exact h.keyDown hawaited
  | keyUp key => cases hok; exact h.keyUp hawaited
  | callback => cases hok; exact h.callback
  | wait ms => cases hok; exact { h with }
  | screenOff => cases hok; exact h.screenOff
  | screenOn => cases hok; exact h.screenOn
  | setForced value =>
      obtain ⟨s', hstep, hok⟩ := bind_eq_ok.mp hok
      cases hok
      simp only [Backlight.step] at hstep
      split at hstep
      · cases hstep; exact h
      · cases hstep
        refine .readForced ?_ h.counter_int h.awaited
        simpa using hoff
  | setEnabled value =>
      obtain ⟨s', hstep, hok⟩ := bind_eq_ok.mp hok
      cases hok
      simp only [Backlight.step] at hstep
      split at hstep
      · cases hstep; exact h
      · cases hstep; exact { h with }
  | setTimeout value =>
      obtain ⟨s', hstep, hok⟩ := bind_eq_ok.mp hok
      cases hok
      simp only [Backlight.step, readTimeout] at hstep
      split at hstep
      · cases hstep; exact h
      · obtain ⟨timeoutInt, -, hstep⟩ := bind_eq_ok.mp hstep
        cases hstep
        exact { h with }

/-- **With no key down and no callback pending, the light is out and the counter at zero, in every
run in which the light is never forced and the presses counted never outnumber the callbacks
pending and the keys down.** -/
theorem settles (forced enabled : Option Bool) (timeout : Option String) (screenOn : Bool)
    (backlightOn : String) (s : State) (held : Finset Key) (evs : List Event)
    (hconnected :
      onServiceConnected (.created forced enabled timeout screenOn backlightOn) = .ok s)
    (hoff : forced ≠ some true) (hevs : ∀ e ∈ evs, e ≠ .setForced true)
    (hawaited : EveryStep Pressing.step AllAwaited ⟨s, held⟩ evs) :
    Pressing.Settled ⟨s, held⟩ ∧ EveryStep Pressing.step Settles ⟨s, held⟩ evs := by
  have hinv := Pressing.inv_connected held hoff hconnected
  refine ⟨hinv.settled, ?_⟩
  have hboth := everyStep_and.mpr ⟨everyStep_of_forall_mem hevs, hawaited⟩
  refine EveryStep.imp (P := Pressing.Inv) ?_ ?_ hinv hboth
  · rintro p e p' h ⟨hoff, hawaited⟩ hok
    exact h.step hoff hawaited hok
  · rintro p e h ⟨hoff, hawaited⟩ p' hok
    exact (h.step hoff hawaited hok).settled

/-- One press, reported twice: the light stays on after the only callback. -/
theorem light_left_on_by_repeated_press :
    onServiceConnected (.created none (some true) (some "1500") true "false") =
      .ok (.controlled 1500 true) ∧
    ¬ EveryStep Pressing.step Settles ⟨.controlled 1500 true, ∅⟩
      [.keyDown .back, .keyDown .back, .keyUp .back, .wait 1500, .callback] := by
  decide +kernel

/-- Both keys pressed, the screen switched off before they come up, and the preference switched off
and on again between two presses. -/
theorem settles_two_keys :
    EveryStep Pressing.step Settles ⟨.controlled 1500 true, ∅⟩
      [.keyDown .back, .keyDown .appSelect, .keyUp .back, .screenOff, .keyUp .appSelect, .wait 1500,
        .callback, .callback, .screenOn, .setEnabled false, .keyDown .back, .keyUp .back,
        .setEnabled true, .keyDown .back, .keyUp .back, .wait 1500, .callback] :=
  (settles none (some true) (some "1500") true "false" (.controlled 1500 true) ∅ _
    (by decide +kernel) (by decide) (by decide) (by decide +kernel)).2

end VendorRs.Backlight
