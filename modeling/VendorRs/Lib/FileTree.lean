import Mathlib.Tactic.Common
import Mathlib.Data.List.Infix
import Mathlib.Data.List.Sort
import Mathlib.Data.List.Dedup
import Mathlib.Data.List.Lex

/-!
# A tree of directories and files

A finite tree, given by what is found at each position; a position is the list of names that lead
there from the root. `FileTree` carries that whatever is there lies in a directory, so nothing can
be below a file or below a position with nothing at it (`get_of_below_file`, `get_of_below_none`).

The operations fail as the system calls they stand for do, and a failed one leaves no new tree.
What each leaves at every position is in `get_mkdirAll`, `get_removeAll`, `get_rename`, `get_update`
and `get_write`, and nothing else is used of them.

Symbolic links and permissions are not part of the tree. Names and file contents are arbitrary.
-/

inductive Node (δ : Type) where
  | dir
  | file (data : δ)
  deriving DecidableEq, Repr

structure FileTree (ν δ : Type) where
  get : List ν → Option (Node δ)
  /-- Positions among which are all those where something is. -/
  dom : List (List ν)
  mem_dom : ∀ p, (get p).isSome → p ∈ dom
  get_root : get [] = some .dir
  get_parent : ∀ p n, (get (p ++ [n])).isSome → get p = some .dir

namespace FileTree

inductive Errno where
  | noent
  | notdir
  | isdir
  | exist
  | inval
  deriving DecidableEq, Repr

variable {ν δ : Type} {t t' : FileTree ν δ} {p q r : List ν} {n : ν} {data : δ}

/-- The tree with nothing in it. -/
def empty : FileTree ν δ where
  get p := if p.isEmpty then some .dir else none
  dom := [[]]
  mem_dom p h := by
    cases p with
    | nil => exact List.mem_singleton_self _
    | cons n p => cases h
  get_root := rfl
  get_parent p n h := by
    rw [List.isEmpty_eq_false_iff.mpr (by simp)] at h
    cases h

/-- Whatever is below a position, there is a directory at it. -/
theorem get_of_isSome_append (hq : q ≠ []) (h : (t.get (p ++ q)).isSome) :
    t.get p = some .dir := by
  induction q using List.reverseRecOn with
  | nil => exact absurd rfl hq
  | append_singleton q n ih =>
      rw [← List.append_assoc] at h
      have hparent := t.get_parent _ _ h
      by_cases hq' : q = []
      · rwa [hq', List.append_nil] at hparent
      · exact ih hq' (by rw [hparent]; rfl)

theorem get_of_below (hp : t.get p ≠ some .dir) (hpq : p <+: q) (hne : p ≠ q) :
    t.get q = none := by
  obtain ⟨r, rfl⟩ := hpq
  have hr : r ≠ [] := by
    rintro rfl
    exact hne (List.append_nil p).symm
  exact Option.not_isSome_iff_eq_none.mp fun h => hp (get_of_isSome_append hr h)

/-- Neither position lies at or below the other. -/
def Apart (p q : List ν) : Prop := ¬ p <+: q ∧ ¬ q <+: p

theorem Apart.symm (h : Apart p q) : Apart q p := ⟨h.2, h.1⟩

/-- What lies below two such positions is apart, too. -/
theorem Apart.not_prefix {r s : List ν} (h : Apart p q) : ¬ p ++ r <+: q ++ s := fun hprefix =>
  (List.prefix_or_prefix_of_prefix ((List.prefix_append p r).trans hprefix)
    (List.prefix_append q s)).elim h.1 h.2

theorem Apart.not_prefix_append {s : List ν} (h : Apart p q) : ¬ p <+: q ++ s := by
  have := h.not_prefix (r := []) (s := s)
  rwa [List.append_nil] at this

theorem Apart.ne {r s : List ν} (h : Apart p q) : p ++ r ≠ q ++ s := by
  intro heq
  apply h.not_prefix (r := r) (s := s)
  rw [heq]

/-- There is a file at the position. -/
def isFile (t : FileTree ν δ) (p : List ν) : Bool :=
  match t.get p with
  | some (.file _) => true
  | _ => false

/-- There is a directory at the position. -/
def isDir (t : FileTree ν δ) (p : List ν) : Bool :=
  match t.get p with
  | some .dir => true
  | _ => false

theorem isFile_iff : t.isFile p ↔ ∃ data, t.get p = some (.file data) := by
  unfold isFile
  split
  · next data h => simp [h]
  · next h => simpa using h

theorem isSome_of_isFile (h : t.isFile p) : (t.get p).isSome := by
  obtain ⟨data, h⟩ := isFile_iff.mp h
  rw [h]
  rfl

@[simp] theorem isDir_iff : t.isDir p ↔ t.get p = some .dir := by
  unfold isDir
  split
  · next h => simp [h]
  · next h => simpa using h

/-- What a file holds. -/
def read (t : FileTree ν δ) (p : List ν) : Except Errno δ :=
  match t.get p with
  | none => .error .noent
  | some .dir => .error .isdir
  | some (.file data) => .ok data

@[simp] theorem read_eq_ok : t.read p = .ok data ↔ t.get p = some (.file data) := by
  unfold read
  split
  · next h => simp [h]
  · next h => simp [h]
  · next h => simp [h]

variable [DecidableEq ν]

/-! ## Operations -/

/-- A position that would need something below a file. -/
def belowFile (t : FileTree ν δ) (p : List ν) : Bool := p.inits.any fun q => q ≠ p ∧ t.isFile q

/-- The directory and all the directories it lies in, as far as they do not exist. -/
def mkdirAll (t : FileTree ν δ) (p : List ν) : Except Errno (FileTree ν δ) :=
  if hfile : ∃ q ∈ p.inits, t.isFile q then .error .notdir
  else .ok
    { get q := if q <+: p then some .dir else t.get q
      dom := p.inits ++ t.dom
      mem_dom q h := by
        rw [List.mem_append, List.mem_inits]
        split at h
        · next hq => exact .inl hq
        · exact .inr (t.mem_dom q h)
      get_root := if_pos (List.nil_prefix)
      get_parent q n h := by
        split at h
        · next hq => exact if_pos ((List.prefix_append q [n]).trans hq)
        · split
          · rfl
          · exact t.get_parent q n h }

/-- The position and all that is below it. There need not be anything. -/
def removeAll (t : FileTree ν δ) (p : List ν) : Except Errno (FileTree ν δ) :=
  if hp : p = [] then .error .inval
  else if t.belowFile p then .error .notdir
  else .ok
    { get q := if p <+: q then none else t.get q
      dom := t.dom
      mem_dom q h := by
        split at h
        · cases h
        · exact t.mem_dom q h
      get_root := by
        rw [if_neg, t.get_root]
        rwa [List.prefix_nil]
      get_parent q n h := by
        split at h
        · cases h
        · next hq =>
          rw [if_neg fun hpq => hq (hpq.trans (List.prefix_append q [n]))]
          exact t.get_parent q n h }

/-- What is at `p`, with all that is below it, to `q`, in place of a file there. -/
def rename (t : FileTree ν δ) (p q : List ν) : Except Errno (FileTree ν δ) :=
  if (t.get p).isNone then .error .noent
  else if t.isDir q then .error .exist
  else if hparent : q = [] ∨ ¬ t.isDir q.dropLast then .error .noent
  else if t.isDir p ∧ t.isFile q then .error .notdir
  else if hbelow : p <+: q ∧ p ≠ q then .error .inval
  else .ok
    { get r := if q <+: r then t.get (p ++ r.drop q.length) else if p <+: r then none else t.get r
      dom := t.dom ++ t.dom.map fun r => q ++ r.drop p.length
      mem_dom r h := by
        rw [List.mem_append, List.mem_map]
        split at h
        · next hq =>
          obtain ⟨r, rfl⟩ := hq
          rw [List.drop_left] at h
          exact .inr ⟨p ++ r, t.mem_dom _ h, by rw [List.drop_left]⟩
        · split at h
          · cases h
          · exact .inl (t.mem_dom r h)
      get_root := by
        push Not at hparent
        have hp : p ≠ [] := by
          rintro rfl
          exact hbelow ⟨List.nil_prefix, hparent.1.symm⟩
        rw [if_neg, if_neg, t.get_root]
        · rwa [List.prefix_nil]
        · rw [List.prefix_nil]
          exact hparent.1
      get_parent r n h := by
        by_cases hqr : q <+: r
        · rw [if_pos (hqr.trans (List.prefix_append r [n]))] at h
          rw [if_pos hqr]
          obtain ⟨r, rfl⟩ := hqr
          rw [List.append_assoc, List.drop_left, ← List.append_assoc] at h
          rw [List.drop_left]
          exact t.get_parent _ n h
        · by_cases hq : q = r ++ [n]
          · rw [hq, List.dropLast_concat, isDir_iff] at hparent
            have hpr : ¬ p <+: r := fun hpr => hbelow
              ⟨hq ▸ hpr.trans (List.prefix_append r [n]), fun hpq => hqr (hpq ▸ hpr)⟩
            rw [if_neg hqr, if_neg hpr]
            push Not at hparent
            exact hparent.2
          · rw [if_neg fun h => (List.prefix_concat_iff.mp h).elim hq hqr] at h
            split at h
            · cases h
            · next hp =>
              rw [if_neg hqr, if_neg fun hpr => hp (hpr.trans (List.prefix_append r [n]))]
              exact t.get_parent r n h }

/-- The contents of a file, changed by `f`. A directory has none, and nothing happens to it. -/
def update (t : FileTree ν δ) (p : List ν) (f : δ → δ) : Except Errno (FileTree ν δ) :=
  match hp : t.get p with
  | none => .error .noent
  | some .dir => .ok t
  | some (.file data) => .ok
    { get q := if q = p then some (.file (f data)) else t.get q
      dom := t.dom
      mem_dom q h := by
        split at h
        · next hq => exact t.mem_dom q (by rw [hq, hp]; rfl)
        · exact t.mem_dom q h
      get_root := by
        rw [if_neg, t.get_root]
        rintro rfl
        rw [t.get_root] at hp
        cases hp
      get_parent q n h := by
        have hqn : (t.get (q ++ [n])).isSome := by
          split at h
          · next hq => rw [hq, hp]; rfl
          · exact h
        have hdir := t.get_parent q n hqn
        rw [if_neg, hdir]
        rintro rfl
        rw [hp] at hdir
        cases hdir }

/-- A file with these contents, in a directory that is there, in place of a file if need be. -/
def write (t : FileTree ν δ) (p : List ν) (data : δ) : Except Errno (FileTree ν δ) :=
  if hparent : p = [] ∨ ¬ t.isDir p.dropLast then .error .noent
  else if hdir : t.isDir p then .error .isdir
  else .ok
    { get q := if q = p then some (.file data) else t.get q
      dom := p :: t.dom
      mem_dom q h := by
        split at h
        · next hq => exact hq ▸ List.mem_cons_self
        · exact List.mem_cons_of_mem _ (t.mem_dom q h)
      get_root := by
        push Not at hparent
        rw [if_neg hparent.1.symm, t.get_root]
      get_parent q n h := by
        have hq : t.get q = some .dir := by
          split at h
          · next hqn =>
            push Not at hparent
            rw [← hqn, List.dropLast_concat, isDir_iff] at hparent
            exact hparent.2
          · exact t.get_parent q n h
        rw [if_neg, hq]
        rintro rfl
        exact hdir (isDir_iff.mpr hq) }

/-- The positions of the files at or below `p`, relative to it, in the order of their names. -/
def filesUnder [LinearOrder ν] (t : FileTree ν δ) (p : List ν) : List (List ν) :=
  ((t.dom.filter fun q => p <+: q ∧ t.isFile q).map (·.drop p.length)).dedup.insertionSort (· ≤ ·)

/-! ## What they leave

A position at a time. -/

theorem get_mkdirAll (h : t.mkdirAll p = .ok t') :
    t'.get q = if q <+: p then some .dir else t.get q := by
  unfold mkdirAll at h
  split at h
  · cases h
  · cases h
    rfl

/-- Below a directory that is there, directories are made without a change outside of it. -/
theorem get_mkdirAll_below (hp : t.get p = some .dir) (h : t.mkdirAll (p ++ r) = .ok t')
    (hq : ¬ p <+: q) : t'.get q = t.get q := by
  rw [get_mkdirAll h]
  split
  · next hqr =>
    rcases List.prefix_or_prefix_of_prefix hqr (List.prefix_append p r) with hqp | hpq
    · obtain ⟨s, rfl⟩ := hqp
      by_cases hs : s = []
      · rw [hs, List.append_nil] at hp
        rw [hp]
      · exact (get_of_isSome_append hs (by rw [hp]; rfl)).symm
    · exact absurd hpq hq
  · rfl

theorem mkdirAll_eq_ok_iff : (∃ t', t.mkdirAll p = .ok t') ↔ ∀ q, q <+: p → ¬ t.isFile q := by
  unfold mkdirAll
  split
  · next hfile => simpa using hfile
  · next hfile => simpa using hfile

/-- Directories that are made are no files. -/
theorem isFile_of_mkdirAll (h : t.mkdirAll p = .ok t') (hq : t'.isFile q) : t.isFile q := by
  obtain ⟨data, hdata⟩ := isFile_iff.mp hq
  rw [get_mkdirAll h] at hdata
  split at hdata
  · cases hdata
  · exact isFile_iff.mpr ⟨data, hdata⟩

/-- What a directory has an entry for can be removed, whatever it is. -/
theorem removeAll_entry (hp : t.get p = some .dir) : ∃ t', t.removeAll (p ++ [n]) = .ok t' := by
  have hbelow : ¬ t.belowFile (p ++ [n]) := by
    intro hfile
    obtain ⟨q, hq, hfile⟩ := List.any_eq_true.mp hfile
    obtain ⟨hne, hfile⟩ := of_decide_eq_true hfile
    rcases List.prefix_concat_iff.mp ((List.mem_inits _ _).mp hq) with heq | hpre
    · exact hne heq
    · obtain ⟨data, hdata⟩ := isFile_iff.mp hfile
      by_cases heq : q = p
      · rw [heq, hp] at hdata
        cases hdata
      · rw [get_of_below (by rw [hdata]; simp) hpre heq] at hp
        cases hp
  unfold removeAll
  rw [dif_neg (by simp), if_neg hbelow]
  exact ⟨_, rfl⟩

theorem get_removeAll (h : t.removeAll p = .ok t') :
    t'.get q = if p <+: q then none else t.get q := by
  unfold removeAll at h
  split at h
  · cases h
  · split at h
    · cases h
    · cases h
      rfl

theorem get_rename (h : t.rename p q = .ok t') :
    t'.get r =
      if q <+: r then t.get (p ++ r.drop q.length) else if p <+: r then none else t.get r := by
  unfold rename at h
  split at h
  · cases h
  · split at h
    · cases h
    · split at h
      · cases h
      · split at h
        · cases h
        · split at h
          · cases h
          · cases h
            rfl

theorem of_rename_eq_ok (h : t.rename p q = .ok t') :
    (t.get p).isSome ∧ t.get q ≠ some .dir ∧ t.get q.dropLast = some .dir := by
  unfold rename at h
  split at h
  · cases h
  · next hp =>
    split at h
    · cases h
    · next hq =>
      split at h
      · cases h
      · next hparent =>
        push Not at hparent
        exact ⟨by simpa [Option.isSome_iff_ne_none] using hp, by simpa using hq,
          isDir_iff.mp hparent.2⟩

theorem of_update_eq_ok {f : δ → δ} (h : t.update p f = .ok t') : (t.get p).isSome := by
  unfold update at h
  split at h
  · cases h
  · next hp => rw [hp]; rfl
  · next hp => rw [hp]; rfl

/-- A file goes to any place in a directory where no directory is. -/
theorem rename_file (hp : t.get p = some (.file data)) (hq : q ≠ [])
    (hparent : t.get q.dropLast = some .dir) (hdir : t.get q ≠ some .dir) :
    ∃ t', t.rename p q = .ok t' := by
  have hbelow : ¬ (p <+: q ∧ p ≠ q) := by
    rintro ⟨⟨r, rfl⟩, hne⟩
    have hr : r ≠ [] := by
      rintro rfl
      exact hne (List.append_nil p).symm
    rw [List.dropLast_append_of_ne_nil hr] at hparent
    by_cases hr' : r.dropLast = []
    · rw [hr', List.append_nil, hp] at hparent
      cases hparent
    · have := get_of_isSome_append hr' (by rw [hparent]; rfl)
      rw [hp] at this
      cases this
  unfold rename
  rw [if_neg (by simp [hp]), if_neg (by simpa using hdir), dif_neg (by simp [hq, hparent]),
    if_neg (by simp [hp]), dif_neg hbelow]
  exact ⟨_, rfl⟩

theorem get_update {f : δ → δ} (h : t.update p f = .ok t') :
    t'.get q =
      if q = p then (t.get p).map fun | .dir => .dir | .file data => .file (f data)
      else t.get q := by
  unfold update at h
  split at h
  · cases h
  · next hp =>
    cases h
    split
    · next hq => rw [hq, hp]; rfl
    · rfl
  · next data hp =>
    cases h
    simp [hp]

theorem update_file {f : δ → δ} (hp : (t.get p).isSome) : ∃ t', t.update p f = .ok t' := by
  unfold update
  split
  · next hnone => rw [hnone] at hp; cases hp
  · exact ⟨t, rfl⟩
  · exact ⟨_, rfl⟩

theorem get_write (h : t.write p data = .ok t') :
    t'.get q = if q = p then some (.file data) else t.get q := by
  unfold write at h
  split at h
  · cases h
  · split at h
    · cases h
    · cases h
      rfl

/-- A new file in a directory. -/
theorem write_entry (hp : t.get p = some .dir) (hn : t.get (p ++ [n]) = none) (data : δ) :
    ∃ t', t.write (p ++ [n]) data = .ok t' := by
  unfold write
  split
  · next hparent => simp [hp] at hparent
  · split
    · next hdir =>
      rw [isDir_iff, hn] at hdir
      cases hdir
    · exact ⟨_, rfl⟩

theorem mem_filesUnder [LinearOrder ν] : q ∈ t.filesUnder p ↔ t.isFile (p ++ q) := by
  rw [filesUnder, List.mem_insertionSort, List.mem_dedup, List.mem_map]
  constructor
  · rintro ⟨r, hr, rfl⟩
    obtain ⟨-, hr⟩ := List.mem_filter.mp hr
    obtain ⟨⟨r, rfl⟩, hfile⟩ := of_decide_eq_true hr
    rwa [List.drop_left]
  · intro hfile
    refine ⟨p ++ q, List.mem_filter.mpr ⟨?_, ?_⟩, List.drop_left⟩
    · obtain ⟨data, hdata⟩ := isFile_iff.mp hfile
      exact t.mem_dom _ (by rw [hdata]; rfl)
    · exact decide_eq_true ⟨List.prefix_append p q, hfile⟩

theorem nodup_filesUnder [LinearOrder ν] : (t.filesUnder p).Nodup :=
  (List.perm_insertionSort _ _).nodup_iff.mpr (List.nodup_dedup _)

end FileTree
