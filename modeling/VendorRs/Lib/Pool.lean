import Mathlib.Data.Finmap
import Mathlib.Tactic.Common

/-!
# Objects with a life cycle, kept in a map

A component keeps one object for each key it is interested in. An object is created and started when
its key appears, and stopped and forgotten when the key disappears. Objects are told apart by the
order in which they were created, so that "the same object" and "a new object for the same key" are
different things, and `log` remembers what was ever done to them.

* `Sound` is what a component of this kind owes: every object was started exactly once, and stopped
  exactly once if it is no longer in the map, and not at all if it is. Starting a key that is not
  there and stopping any key keep it (`Sound.start`, `Sound.stop`).
* `startAll` and `stopAll` do so for a list of keys; `startAll_stopAll_log` says which objects they
  touch.
-/

/-- Something done to an object. -/
inductive Pool.Action where
  | started (obj : Nat)
  | stopped (obj : Nat)
  deriving DecidableEq, Repr

structure Pool (κ : Type) where
  /-- The object of each key. -/
  live : Finmap fun _ : κ => Nat
  /-- How many objects there have been; the next one gets this number. -/
  created : Nat
  log : List Pool.Action

namespace Pool

variable {κ : Type}

def empty : Pool κ := ⟨∅, 0, []⟩

variable [DecidableEq κ]

/-- A new object for the key. -/
def start (p : Pool κ) (k : κ) : Pool κ where
  live := p.live.insert k p.created
  created := p.created + 1
  log := p.log ++ [.started p.created]

/-- The end of the key's object, if it has one. -/
def stop (p : Pool κ) (k : κ) : Pool κ where
  live := p.live.erase k
  created := p.created
  log := p.log ++ ((p.live.lookup k).map Action.stopped).toList

/-- Every object was started once, and stopped once unless it is still in the map. -/
structure Sound (p : Pool κ) : Prop where
  lt_created : ∀ {k obj}, p.live.lookup k = some obj → obj < p.created
  inj : ∀ {k k' obj}, p.live.lookup k = some obj → p.live.lookup k' = some obj → k = k'
  started : ∀ obj, p.log.count (.started obj) = if obj < p.created then 1 else 0
  not_stopped : ∀ {k obj}, p.live.lookup k = some obj → p.log.count (.stopped obj) = 0
  stopped : ∀ obj < p.created, (∀ k, p.live.lookup k ≠ some obj) → p.log.count (.stopped obj) = 1
  not_created : ∀ obj, p.created ≤ obj → p.log.count (.stopped obj) = 0

variable {p : Pool κ} {k k' : κ} {ks : List κ} {obj : Nat}

theorem sound_empty : Sound (empty : Pool κ) where
  lt_created := nofun
  inj := nofun
  started := fun _ => rfl
  not_stopped := nofun
  stopped := nofun
  not_created := fun _ _ => rfl

/-! ## One key -/

theorem lookup_start : (p.start k).live.lookup k = some p.created := Finmap.lookup_insert _

theorem lookup_start_of_ne (h : k' ≠ k) : (p.start k).live.lookup k' = p.live.lookup k' :=
  Finmap.lookup_insert_of_ne _ h

theorem mem_start : k' ∈ (p.start k).live ↔ k' = k ∨ k' ∈ p.live := Finmap.mem_insert

theorem lookup_stop : (p.stop k).live.lookup k = none := Finmap.lookup_erase _ _

theorem lookup_stop_of_ne (h : k' ≠ k) : (p.stop k).live.lookup k' = p.live.lookup k' :=
  Finmap.lookup_erase_ne h

theorem lookup_of_stop (h : (p.stop k).live.lookup k' = some obj) :
    k' ≠ k ∧ p.live.lookup k' = some obj := by
  by_cases hk : k' = k
  · rw [hk, lookup_stop] at h
    cases h
  · rw [lookup_stop_of_ne hk] at h
    exact ⟨hk, h⟩

/-- The object of a key after a start: the new one for its own key, the old one for another. -/
theorem lookup_of_start (h : (p.start k).live.lookup k' = some obj) :
    (k' = k ∧ obj = p.created) ∨ (k' ≠ k ∧ p.live.lookup k' = some obj) := by
  by_cases hk : k' = k
  · rw [hk, lookup_start] at h
    exact .inl ⟨hk, (Option.some.inj h).symm⟩
  · rw [lookup_start_of_ne hk] at h
    exact .inr ⟨hk, h⟩

theorem Sound.start (h : Sound p) (hk : k ∉ p.live) : Sound (p.start k) where
  lt_created := by
    intro k' obj hlookup
    show obj < p.created + 1
    rcases lookup_of_start hlookup with ⟨-, rfl⟩ | ⟨-, hold⟩
    · omega
    · have := h.lt_created hold
      omega
  inj := by
    intro k₁ k₂ obj h₁ h₂
    rcases lookup_of_start h₁ with ⟨rfl, hobj⟩ | ⟨-, hold₁⟩
    · rcases lookup_of_start h₂ with ⟨rfl, -⟩ | ⟨-, hold₂⟩
      · rfl
      · have := h.lt_created hold₂
        omega
    · rcases lookup_of_start h₂ with ⟨-, hobj⟩ | ⟨-, hold₂⟩
      · have := h.lt_created hold₁
        omega
      · exact h.inj hold₁ hold₂
  started := by
    intro obj
    show (p.log ++ [Action.started p.created]).count (.started obj) =
      if obj < p.created + 1 then 1 else 0
    rw [List.count_append, h.started, List.count_singleton]
    simp only [beq_iff_eq, Action.started.injEq]
    split <;> split <;> split <;> omega
  not_stopped := by
    intro k' obj hlookup
    show (p.log ++ [Action.started p.created]).count (.stopped obj) = 0
    rw [List.count_append, List.count_singleton]
    rcases lookup_of_start hlookup with ⟨-, rfl⟩ | ⟨-, hold⟩
    · rw [h.not_created _ le_rfl]
      rfl
    · rw [h.not_stopped hold]
      rfl
  stopped := by
    intro obj hlt hnone
    show (p.log ++ [Action.started p.created]).count (.stopped obj) = 1
    rw [List.count_append, List.count_singleton]
    -- the new object is in the map, and an old one that is not was not before
    have hne : obj ≠ p.created := by
      rintro rfl
      exact hnone k lookup_start
    have hlt : obj < p.created := by
      change obj < p.created + 1 at hlt
      omega
    rw [h.stopped obj hlt]
    · rfl
    · intro k' hold
      apply hnone k'
      rw [lookup_start_of_ne, hold]
      rintro rfl
      exact hk (Finmap.mem_of_lookup_eq_some hold)
  not_created := by
    intro obj hle
    change p.created + 1 ≤ obj at hle
    show (p.log ++ [Action.started p.created]).count (.stopped obj) = 0
    rw [List.count_append, List.count_singleton, h.not_created obj (by omega)]
    rfl

theorem stop_of_notMem (hk : k ∉ p.live) : p.stop k = p := by
  have hnone : p.live.lookup k = none := Finmap.lookup_eq_none.mpr hk
  have hlive : p.live.erase k = p.live := by
    apply Finmap.ext_lookup
    intro k'
    by_cases hk' : k' = k
    · rw [hk', Finmap.lookup_erase, hnone]
    · exact Finmap.lookup_erase_ne hk'
  unfold stop
  rw [hlive, hnone, Option.map_none, Option.toList_none, List.append_nil]

theorem log_stop (hobj : p.live.lookup k = some obj) :
    (p.stop k).log = p.log ++ [.stopped obj] := by
  unfold stop
  rw [hobj, Option.map_some, Option.toList_some]

theorem Sound.stop (h : Sound p) (k : κ) : Sound (p.stop k) := by
  by_cases hk : k ∈ p.live
  · obtain ⟨obj, hobj⟩ := Finmap.mem_iff.mp hk
    have hlog := log_stop hobj
    refine ⟨?_, ?_, ?_, ?_, ?_, ?_⟩
    · intro k' obj' hlookup
      exact h.lt_created (lookup_of_stop hlookup).2
    · intro k₁ k₂ obj' h₁ h₂
      exact h.inj (lookup_of_stop h₁).2 (lookup_of_stop h₂).2
    · intro obj'
      rw [hlog, List.count_append, List.count_singleton, h.started]
      rfl
    · intro k' obj' hlookup
      obtain ⟨hne, hold⟩ := lookup_of_stop hlookup
      have hother : obj ≠ obj' := by
        rintro rfl
        exact hne (h.inj hold hobj)
      rw [hlog, List.count_append, List.count_singleton, h.not_stopped hold]
      simp [hother]
    · intro obj' hlt hnone
      rw [hlog, List.count_append, List.count_singleton]
      by_cases hsame : obj = obj'
      · rw [← hsame, h.not_stopped hobj]
        simp
      · have hbefore : ∀ k', p.live.lookup k' ≠ some obj' := by
          intro k' hold
          apply hnone k'
          rw [lookup_stop_of_ne, hold]
          rintro rfl
          rw [hobj] at hold
          exact hsame (Option.some.inj hold)
        rw [h.stopped obj' hlt hbefore]
        simp [hsame]
    · intro obj' hle
      have hother : obj ≠ obj' := by
        rintro rfl
        have hlt := h.lt_created hobj
        change p.created ≤ obj at hle
        omega
      rw [hlog, List.count_append, List.count_singleton, h.not_created obj' hle]
      simp [hother]
  · rw [stop_of_notMem hk]
    exact h

/-! ## Many keys -/

def startAll (p : Pool κ) (ks : List κ) : Pool κ := ks.foldl start p

def stopAll (p : Pool κ) (ks : List κ) : Pool κ := ks.foldl stop p

theorem lookup_startAll_of_notMem (h : k ∉ ks) :
    (p.startAll ks).live.lookup k = p.live.lookup k := by
  induction ks generalizing p with
  | nil => rfl
  | cons k₁ ks ih =>
      obtain ⟨hne, hks⟩ := not_or.mp (mt List.mem_cons.mpr h)
      exact (ih hks).trans (lookup_start_of_ne hne)

theorem mem_startAll : k ∈ (p.startAll ks).live ↔ k ∈ ks ∨ k ∈ p.live := by
  induction ks generalizing p with
  | nil => simp [startAll]
  | cons k₁ ks ih =>
      refine (ih (p := p.start k₁)).trans ?_
      rw [mem_start, List.mem_cons]
      tauto

theorem lookup_stopAll_of_notMem (h : k ∉ ks) :
    (p.stopAll ks).live.lookup k = p.live.lookup k := by
  induction ks generalizing p with
  | nil => rfl
  | cons k₁ ks ih =>
      obtain ⟨hne, hks⟩ := not_or.mp (mt List.mem_cons.mpr h)
      exact (ih hks).trans (lookup_stop_of_ne hne)

theorem mem_stopAll : k ∈ (p.stopAll ks).live ↔ k ∉ ks ∧ k ∈ p.live := by
  induction ks generalizing p with
  | nil => simp [stopAll]
  | cons k₁ ks ih =>
      refine (ih (p := p.stop k₁)).trans ?_
      rw [stop, Finmap.mem_erase, List.mem_cons]
      tauto

theorem Sound.startAll (h : Sound p) (hnodup : ks.Nodup) (hks : ∀ k ∈ ks, k ∉ p.live) :
    Sound (p.startAll ks) := by
  induction ks generalizing p with
  | nil => exact h
  | cons k ks ih =>
      obtain ⟨hk, hnodup⟩ := List.nodup_cons.mp hnodup
      obtain ⟨hlive, hks⟩ := List.forall_mem_cons.mp hks
      apply ih (h.start hlive) hnodup
      intro k' hk' hmem
      rcases mem_start.mp hmem with rfl | hmem
      · exact hk hk'
      · exact hks k' hk' hmem

theorem Sound.stopAll (h : Sound p) (ks : List κ) : Sound (p.stopAll ks) := by
  induction ks generalizing p with
  | nil => exact h
  | cons k ks ih => exact ih (h.stop k)

/-- The objects started are those of the keys given. -/
theorem startAll_log (hnodup : ks.Nodup) :
    ∃ new, (p.startAll ks).log = p.log ++ new ∧ (∀ obj, .stopped obj ∉ new) ∧
      ∀ obj, .started obj ∈ new ↔ ∃ k ∈ ks, (p.startAll ks).live.lookup k = some obj := by
  induction ks generalizing p with
  | nil => exact ⟨[], (List.append_nil _).symm, nofun, by simp⟩
  | cons k ks ih =>
      obtain ⟨hk, hnodup⟩ := List.nodup_cons.mp hnodup
      obtain ⟨new, hlog, hstopped, hstarted⟩ := ih (p := p.start k) hnodup
      have hfirst : (p.startAll (k :: ks)).live.lookup k = some p.created :=
        (lookup_startAll_of_notMem hk).trans lookup_start
      refine ⟨.started p.created :: new, ?_, ?_, ?_⟩
      · refine hlog.trans ?_
        show p.log ++ [.started p.created] ++ new = _
        rw [List.append_assoc, List.singleton_append]
      · intro obj hmem
        rcases List.mem_cons.mp hmem with hfalse | hmem
        · cases hfalse
        · exact hstopped obj hmem
      · intro obj
        simp only [List.mem_cons, hstarted obj, exists_eq_or_imp]
        refine or_congr ?_ Iff.rfl
        rw [hfirst, Option.some.injEq, Action.started.injEq, eq_comm]

/-- The objects stopped are those of the keys given. -/
theorem stopAll_log (p : Pool κ) (ks : List κ) :
    ∃ new, (p.stopAll ks).log = p.log ++ new ∧ (∀ obj, .started obj ∉ new) ∧
      ∀ obj, .stopped obj ∈ new ↔ ∃ k ∈ ks, p.live.lookup k = some obj := by
  induction ks generalizing p with
  | nil => exact ⟨[], (List.append_nil _).symm, nofun, by simp⟩
  | cons k ks ih =>
      obtain ⟨new, hlog, hstarted, hstopped⟩ := ih (p.stop k)
      refine ⟨((p.live.lookup k).map Action.stopped).toList ++ new, ?_, ?_, ?_⟩
      · refine hlog.trans ?_
        rw [← List.append_assoc]
        rfl
      · intro obj hmem
        rcases List.mem_append.mp hmem with hfirst | hmem
        · simp at hfirst
        · exact hstarted obj hmem
      · intro obj
        simp only [List.mem_append, hstopped obj, List.mem_cons, exists_eq_or_imp]
        constructor
        · rintro (hfirst | ⟨k', hk', hlookup⟩)
          · exact .inl (by simpa using hfirst)
          · exact .inr ⟨k', hk', (lookup_of_stop hlookup).2⟩
        · rintro (hfirst | ⟨k', hk', hlookup⟩)
          · exact .inl (by simpa using hfirst)
          · by_cases hne : k' = k
            · rw [hne] at hlookup
              exact .inl (by simpa using hlookup)
            · exact .inr ⟨k', hk', (lookup_stop_of_ne hne).trans hlookup⟩

/-- Keys that appear and others that disappear: the objects started are those of the former, the
objects stopped those of the latter. -/
theorem startAll_stopAll_log {new gone : List κ} (hnodup : new.Nodup)
    (hgone : ∀ k ∈ new, k ∉ gone) :
    ∃ log, ((p.startAll new).stopAll gone).log = p.log ++ log ∧
      (∀ obj, .started obj ∈ log ↔
        ∃ k ∈ new, ((p.startAll new).stopAll gone).live.lookup k = some obj) ∧
      ∀ obj, .stopped obj ∈ log ↔ ∃ k ∈ gone, p.live.lookup k = some obj := by
  obtain ⟨started, hstartLog, hnoStop, hstarted⟩ := startAll_log (p := p) hnodup
  obtain ⟨stopped, hstopLog, hnoStart, hstopped⟩ := stopAll_log (p.startAll new) gone
  refine ⟨started ++ stopped, ?_, ?_, ?_⟩
  · rw [hstopLog, hstartLog, List.append_assoc]
  · intro obj
    rw [List.mem_append, or_iff_left (hnoStart obj), hstarted]
    apply exists_congr
    intro k
    apply and_congr_right
    intro hk
    rw [lookup_stopAll_of_notMem (hgone k hk)]
  · intro obj
    rw [List.mem_append, or_iff_right (hnoStop obj), hstopped]
    apply exists_congr
    intro k
    apply and_congr_right
    intro hk
    rw [lookup_startAll_of_notMem fun hnew => hgone k hnew hk]

end Pool
