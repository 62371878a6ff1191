import VendorRs.Lib.Runs
import VendorRs.Utils

/-!
# Waking the screen by a double tap

A tap on the dark screen comes as the key F4. `doubleClick` compares its time with that of an
earlier one, the first tap of a pair, and takes it for the second tap if the difference is small.
Both times are read from the wall clock, which may be set, and a difference that is negative is
small too.

So the screen may wake for a single tap. As long as no first tap turns out to be later than the
second one it does not, `no_false_positives`.
-/

namespace VendorRs.DoubleTap

open Java Utils Runs

/-- `KeyEvent.ACTION_DOWN`, `ACTION_UP` and `ACTION_MULTIPLE`. -/
inductive Action where
  | down
  | up
  | multiple
  deriving DecidableEq, Repr

/-- An event of the key F4, and what is read while it is handled. -/
structure KeyEvent where
  action : Action
  files : Files
  currentTimeMillis : Int64

structure State where
  msDoubleClick : Int64
  /-- How many wake locks have been taken. -/
  wakeLocks : Nat
  /-- For the theorems only: the time of each tap so far, handled or not. -/
  taps : List Int64
  /-- The same: whether `msDoubleClick` is the time of one. -/
  hasFirstTap : Bool

/-- A new `MainService`. -/
def State.created : State := ⟨0, 0, [], false⟩

/-! ## The functions -/

def msDoubleClickThreshold : Int64 := 250

def dozeWakeupNode : String := "/proc/touchpanel/tp_f4"

def doubleClick (s : State) (thisTime : Int64) : Bool × State :=
  if thisTime - s.msDoubleClick < msDoubleClickThreshold then (true, s)
  else (false, { s with msDoubleClick := thisTime, hasFirstTap := true })

/-- The case `KEYCODE_F4` of `handleKeyEvent`, with its result. -/
def handleKeyEvent (s : State) (e : KeyEvent) : Outcome State (Bool × State) := do
  let enabled ← leaving s (valueOf (readFromFile e.files dozeWakeupNode))
  if enabled = 0 then return (false, s)
  else if e.action = .up then
    let (double, s) := doubleClick s e.currentTimeMillis
    if double then return (true, { s with wakeLocks := s.wakeLocks + 1 }) else return (true, s)
  else return (true, s)

/-- A key that comes up is a tap. -/
def State.tapped (s : State) (e : KeyEvent) : State :=
  if e.action = .up then { s with taps := s.taps ++ [e.currentTimeMillis] } else s

def step (s : State) (e : KeyEvent) : Outcome State State := do
  let (_, s) ← handleKeyEvent s e
  return s.tapped e

/-! ## What should hold, and when it does -/

/-- The tap is asked for its time: double taps are enabled. -/
def KeyEvent.handled (e : KeyEvent) : Bool :=
  e.action = .up &&
    match valueOf (readFromFile e.files dozeWakeupNode) with
    | .ok enabled => enabled ≠ 0
    | .error _ => false

/-- The time is at least that of some tap, and less than 250 ms after it. -/
def Follows (taps : List Int64) (time : Int64) : Prop :=
  ∃ tap ∈ taps, tap.toInt ≤ time.toInt ∧ time.toInt < tap.toInt + 250

/-- Only the second tap of two is taken for one, and wakes the screen. -/
structure NoFalsePositive (s : State) (e : KeyEvent) : Prop where
  doubleClick : e.handled = true → (doubleClick s e.currentTimeMillis).1 = true →
    Follows s.taps e.currentTimeMillis
  wakeLock : s.wakeLocks < (step s e).left.wakeLocks → Follows s.taps e.currentTimeMillis

/-- If the difference is small, it is that to a first tap, which is not the later one, and it has
not overflowed. -/
def ClockFits (s : State) (e : KeyEvent) : Prop :=
  e.handled = true → e.currentTimeMillis - s.msDoubleClick < msDoubleClickThreshold →
    s.hasFirstTap = true ∧ s.msDoubleClick ≤ e.currentTimeMillis ∧
      e.currentTimeMillis.toInt - s.msDoubleClick.toInt < 2 ^ 63

instance (taps : List Int64) (time : Int64) : Decidable (Follows taps time) :=
  inferInstanceAs (Decidable (∃ tap ∈ taps, _))

instance (s : State) (e : KeyEvent) : Decidable (NoFalsePositive s e) :=
  decidable_of_iff
    ((e.handled = true → (doubleClick s e.currentTimeMillis).1 = true →
        Follows s.taps e.currentTimeMillis) ∧
      (s.wakeLocks < (step s e).left.wakeLocks → Follows s.taps e.currentTimeMillis))
    ⟨fun h => ⟨h.1, h.2⟩, fun h => ⟨h.doubleClick, h.wakeLock⟩⟩

instance (s : State) (e : KeyEvent) : Decidable (ClockFits s e) :=
  inferInstanceAs (Decidable (_ → _ → _))

variable {s s' : State} {e : KeyEvent} {time : Int64}

/-! ## Steps -/

theorem doubleClick_iff :
    (doubleClick s time).1 = true ↔ time - s.msDoubleClick < msDoubleClickThreshold := by
  unfold doubleClick
  split <;> simp [*]

theorem handled_iff :
    e.handled = true ↔ e.action = .up ∧
      ∃ enabled, valueOf (readFromFile e.files dozeWakeupNode) = .ok enabled ∧ enabled ≠ 0 := by
  unfold KeyEvent.handled
  cases valueOf (readFromFile e.files dozeWakeupNode) <;> simp

/-- A tap that is handled is judged by `doubleClick`, and takes a wake lock if it is the second. -/
theorem step_of_handled (h : e.handled = true) :
    step s e = .ok
      (if e.currentTimeMillis - s.msDoubleClick < msDoubleClickThreshold then
        { s with wakeLocks := s.wakeLocks + 1, taps := s.taps ++ [e.currentTimeMillis] }
      else
        { s with
          msDoubleClick := e.currentTimeMillis
          taps := s.taps ++ [e.currentTimeMillis]
          hasFirstTap := true }) := by
  obtain ⟨hup, enabled, hvalue, henabled⟩ := handled_iff.mp h
  rw [step, handleKeyEvent, hvalue, leaving_ok, ok_bind, if_neg henabled, if_pos hup]
  by_cases hsmall : e.currentTimeMillis - s.msDoubleClick < msDoubleClickThreshold
  · simp [doubleClick, hsmall, State.tapped, hup, pure, Except.pure]
  · simp [doubleClick, hsmall, State.tapped, hup, pure, Except.pure]

/-- Any other event leaves all but the list of taps as it is. -/
theorem step_of_not_handled (h : ¬ e.handled = true) :
    ∃ taps, (step s e).left = { s with taps := s.taps ++ taps } := by
  have htapped : ∃ taps, s.tapped e = { s with taps := s.taps ++ taps } := by
    unfold State.tapped
    split
    · exact ⟨_, rfl⟩
    · exact ⟨[], by rw [List.append_nil]⟩
  rw [step, handleKeyEvent]
  cases hvalue : valueOf (readFromFile e.files dozeWakeupNode) with
  | error x => exact ⟨[], by rw [List.append_nil]; rfl⟩
  | ok enabled =>
      rw [leaving_ok, ok_bind]
      by_cases henabled : enabled = 0
      · rw [if_pos henabled]
        exact htapped
      · have hup : ¬ e.action = .up := by
          intro hup
          exact h (handled_iff.mpr ⟨hup, enabled, hvalue, henabled⟩)
        rw [if_neg henabled, if_neg hup]
        exact htapped

/-! ## Runs -/

/-- What `msDoubleClick` is compared with is the time of a tap. -/
def State.Inv (s : State) : Prop := s.hasFirstTap = true → s.msDoubleClick ∈ s.taps

theorem State.Inv.step (h : s.Inv) (hok : step s e = .ok s') : s'.Inv := by
  by_cases hhandled : e.handled = true
  · rw [step_of_handled hhandled] at hok
    cases hok
    split
    · intro hfirst
      exact List.mem_append_left _ (h hfirst)
    · intro _
      exact List.mem_append_right _ (List.mem_singleton_self _)
  · obtain ⟨taps, hleft⟩ := step_of_not_handled (s := s) hhandled
    rw [hok] at hleft
    obtain rfl : s' = { s with taps := s.taps ++ taps } := hleft
    intro hfirst
    exact List.mem_append_left _ (h hfirst)

/-- A difference that has not overflowed is the difference. -/
theorem lt_add_threshold (hle : s.msDoubleClick ≤ time)
    (hrange : time.toInt - s.msDoubleClick.toInt < 2 ^ 63)
    (hsmall : time - s.msDoubleClick < msDoubleClickThreshold) :
    s.msDoubleClick.toInt ≤ time.toInt ∧ time.toInt < s.msDoubleClick.toInt + 250 := by
  rw [Int64.le_iff_toInt_le] at hle
  rw [Int64.lt_iff_toInt_lt, Int64.toInt_sub, Int.bmod_eq_of_le (by omega) (by omega)] at hsmall
  have hthreshold : msDoubleClickThreshold.toInt = 250 := by decide
  omega

theorem State.Inv.follows (h : s.Inv) (hfits : ClockFits s e) (hhandled : e.handled = true)
    (hsmall : e.currentTimeMillis - s.msDoubleClick < msDoubleClickThreshold) :
    Follows s.taps e.currentTimeMillis := by
  obtain ⟨hfirst, hle, hrange⟩ := hfits hhandled hsmall
  exact ⟨s.msDoubleClick, h hfirst, lt_add_threshold hle hrange hsmall⟩

theorem State.Inv.noFalsePositive (h : s.Inv) (hfits : ClockFits s e) : NoFalsePositive s e where
  doubleClick := by
    intro hhandled hdouble
    exact h.follows hfits hhandled (doubleClick_iff.mp hdouble)
  wakeLock := by
    intro hlock
    by_cases hhandled : e.handled = true
    · rw [step_of_handled hhandled] at hlock
      split at hlock
      · next hsmall => exact h.follows hfits hhandled hsmall
      · exact absurd hlock (Nat.lt_irrefl _)
    · obtain ⟨taps, hleft⟩ := step_of_not_handled (s := s) hhandled
      rw [hleft] at hlock
      exact absurd hlock (Nat.lt_irrefl _)

/-- Where the clock does not fit, the screen wakes, whether or not there was a tap just before. -/
theorem wakes_of_not_clockFits (h : ¬ ClockFits s e) :
    (step s e).left.wakeLocks = s.wakeLocks + 1 := by
  unfold ClockFits at h
  push Not at h
  obtain ⟨hhandled, hsmall, -⟩ := h
  rw [step_of_handled hhandled, if_pos hsmall]
  rfl

/-- **A tap is taken for the second of two, and wakes the screen, only if it comes less than 250 ms
after another one**, as long as no first tap is later than a tap that is close to it. -/
theorem no_false_positives (evs : List KeyEvent) (hfits : EveryStep step ClockFits .created evs) :
    EveryStep step NoFalsePositive .created evs := by
  refine EveryStep.imp (P := State.Inv) ?_ ?_ ?_ hfits
  · intro s e s' h _ hok
    exact h.step hok
  · intro s e h hfits
    exact h.noFalsePositive hfits
  · intro hfirst
    cases hfirst

/-- Double taps are enabled. -/
def tapAt (currentTimeMillis : Int64) : KeyEvent := ⟨.up, fun _ => some "1", currentTimeMillis⟩

/-- A single tap, a double tap, and a clock that goes on all the time. -/
theorem no_false_positives_three_taps :
    EveryStep step NoFalsePositive .created [tapAt 1000, tapAt 5000, tapAt 5249] :=
  no_false_positives _ (by decide +kernel)

/-- The clock is set back by five seconds between two taps. -/
theorem clock_set_back_wakes :
    ¬ EveryStep step NoFalsePositive .created [tapAt 10000, tapAt 5000] := by
  decide +kernel

end VendorRs.DoubleTap
