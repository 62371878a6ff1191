import Mathlib.Tactic.Common
import Mathlib.Data.List.Basic

/-!
# A message queue with a clock

The messages that were posted with a delay and have not been delivered yet, in the order in which
they will be: by due time, and first come first served among messages due at the same time. A
message is delivered at or after its due time, never before, and a delay that is not positive is
none.
-/

/-- The pending messages of a looper, each with its due time, and the time it is. -/
structure Looper (μ : Type) where
  now : Nat
  queue : List (Nat × μ)
  sorted : queue.Pairwise (·.1 ≤ ·.1)
  deriving DecidableEq

namespace Looper

variable {μ : Type}

def empty (now : Nat) : Looper μ := ⟨now, [], .nil⟩

/-- Into its place: before the first message that is due later. -/
def enqueue (due : Nat) (m : μ) : List (Nat × μ) → List (Nat × μ)
  | [] => [(due, m)]
  | e :: queue => if due < e.1 then (due, m) :: e :: queue else e :: enqueue due m queue

theorem mem_enqueue {due : Nat} {m : μ} {e : Nat × μ} {queue : List (Nat × μ)} :
    e ∈ enqueue due m queue ↔ e = (due, m) ∨ e ∈ queue := by
  induction queue with
  | nil => simp [enqueue]
  | cons e' queue ih =>
      rw [enqueue]
      split
      · simp
      · simp only [List.mem_cons, ih]
        tauto

theorem length_enqueue {due : Nat} {m : μ} {queue : List (Nat × μ)} :
    (enqueue due m queue).length = queue.length + 1 := by
  induction queue with
  | nil => rfl
  | cons e queue ih =>
      rw [enqueue]
      split
      · rfl
      · rw [List.length_cons, ih, List.length_cons]

theorem sorted_enqueue {due : Nat} {m : μ} {queue : List (Nat × μ)}
    (h : queue.Pairwise (·.1 ≤ ·.1)) : (enqueue due m queue).Pairwise (·.1 ≤ ·.1) := by
  induction queue with
  | nil => simp [enqueue]
  | cons e queue ih =>
      obtain ⟨he, hqueue⟩ := List.pairwise_cons.mp h
      rw [enqueue]
      split
      · next hdue =>
          refine List.pairwise_cons.mpr ⟨?_, h⟩
          intro e' he'
          rcases List.mem_cons.mp he' with rfl | he'
          · exact Nat.le_of_lt hdue
          · exact Nat.le_trans (Nat.le_of_lt hdue) (he e' he')
      · next hdue =>
          refine List.pairwise_cons.mpr ⟨?_, ih hqueue⟩
          intro e' he'
          rcases mem_enqueue.mp he' with rfl | he'
          · exact Nat.le_of_not_lt hdue
          · exact he e' he'

/-- What is due last of all goes behind the rest. -/
theorem enqueue_last {due : Nat} {m : μ} {queue : List (Nat × μ)} (h : ∀ e ∈ queue, e.1 ≤ due) :
    enqueue due m queue = queue ++ [(due, m)] := by
  induction queue with
  | nil => rfl
  | cons e queue ih =>
      obtain ⟨he, hqueue⟩ := List.forall_mem_cons.mp h
      rw [enqueue, if_neg (Nat.not_lt.mpr he), ih hqueue, List.cons_append]

/-- `postDelayed`. -/
def post (l : Looper μ) (delay : Int) (m : μ) : Looper μ where
  now := l.now
  queue := enqueue (l.now + delay.toNat) m l.queue
  sorted := sorted_enqueue l.sorted

/-- The message to be delivered next, once it is due, and what is left. -/
def deliver (l : Looper μ) : Option (μ × Looper μ) :=
  match h : l.queue with
  | [] => none
  | (due, m) :: queue =>
      if due ≤ l.now then
        some (m, ⟨l.now, queue, (List.pairwise_cons.mp (h ▸ l.sorted)).2⟩)
      else none

/-- Time passes. -/
def wait (l : Looper μ) (ms : Nat) : Looper μ := { l with now := l.now + ms }

/-- What is delivered was at the head of the queue, and was due. -/
theorem deliver_eq_some {l l' : Looper μ} {m : μ} (h : l.deliver = some (m, l')) :
    l'.now = l.now ∧ ∃ due ≤ l.now, l.queue = (due, m) :: l'.queue := by
  unfold deliver at h
  split at h
  · cases h
  · next due m' queue hqueue =>
      split at h
      · next hdue =>
          cases h
          exact ⟨rfl, due, hdue, hqueue⟩
      · cases h

end Looper
