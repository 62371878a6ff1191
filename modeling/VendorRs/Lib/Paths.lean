import Mathlib.Tactic.Common
import Mathlib.Data.List.Infix
import VendorRs.Lib.Fields

/-!
# Slash-separated paths

A path is a walk from a directory: each component goes down to an entry of that name, or up. The
*clean* form of a path does all its steps up first, and none if it starts at the root. Cleaning
does not change where the walk ends (`descend_clean`), a clean path is its own clean form
(`clean_segs`), joining is one walk after the other (`descend_join`), and a relative path leads from
its base to its target (`walk_rel`).

Symbolic links are outside of this: with them, going up does not undo going down.

The names are arbitrary up to the section on texts, where `/` separates them.
-/

namespace Paths

/-- A component: down to the entry of that name, or up. -/
inductive Seg (ν : Type) where
  | name (n : ν)
  | up
  deriving DecidableEq, Repr

/-- A clean path: `ups` directories up and then down along `names`. From the root there is no way
up. -/
structure Path (ν : Type) where
  rooted : Bool
  ups : Nat
  names : List ν
  ups_of_rooted : rooted = true → ups = 0
  deriving DecidableEq

variable {ν : Type}

/-! ## Walks -/

/-- One step from a directory, which is given by the names that lead to it from the root. The root
is its own parent. -/
def go (pos : List ν) : Seg ν → List ν
  | .name n => pos ++ [n]
  | .up => pos.dropLast

def follow (pos : List ν) (segs : List (Seg ν)) : List ν := segs.foldl go pos

variable {pos : List ν} {l l' : List (Seg ν)} {ns : List ν}

@[simp] theorem follow_nil : follow pos [] = pos := rfl

@[simp] theorem follow_cons {s : Seg ν} : follow pos (s :: l) = follow (go pos s) l := rfl

theorem follow_append : follow pos (l ++ l') = follow (follow pos l) l' :=
  List.foldl_append

theorem follow_names : follow pos (ns.map .name) = pos ++ ns := by
  induction ns generalizing pos with
  | nil => simp
  | cons n ns ih => simp [go, ih]

/-- As many steps up as there were names down lead back. -/
theorem follow_ups : follow (pos ++ ns) (List.replicate ns.length .up) = pos := by
  induction ns using List.reverseRecOn with
  | nil => simp
  | append_singleton ns n ih =>
      rw [List.length_append, List.length_singleton, List.replicate_succ, follow_cons, go,
        ← List.append_assoc, List.dropLast_concat, ih]

namespace Path

/-- The path that stays where it starts. -/
def here (rooted : Bool) : Path ν := ⟨rooted, 0, [], fun _ => rfl⟩

/-- The components of a clean path. -/
def segs (p : Path ν) : List (Seg ν) := List.replicate p.ups .up ++ p.names.map .name

/-- The directory above. -/
def above (p : Path ν) : Path ν :=
  match p.names with
  | n :: ns => { p with names := (n :: ns).dropLast }
  | [] => if h : p.rooted = true then p else ⟨p.rooted, p.ups + 1, [], fun hr => absurd hr h⟩

/-- A clean path with a further component. -/
def push (p : Path ν) : Seg ν → Path ν
  | .name n => { p with names := p.names ++ [n] }
  | .up => p.above

@[simp] theorem rooted_above (p : Path ν) : p.above.rooted = p.rooted := by
  unfold above
  split
  · rfl
  · split <;> rfl

@[simp] theorem rooted_push (p : Path ν) (s : Seg ν) : (p.push s).rooted = p.rooted := by
  cases s with
  | name n => rfl
  | up => exact rooted_above p

end Path

open Paths.Path

/-- The clean form of a list of components. -/
def clean (rooted : Bool) (l : List (Seg ν)) : Path ν := l.foldl push (here rooted)

/-- Where a path leads from a directory; whether it is rooted is not asked. -/
def descend (pos : List ν) (p : Path ν) : List ν := follow pos p.segs

/-- Where a path leads when the working directory is `cwd`. -/
def walk (cwd : List ν) (p : Path ν) : List ν := descend (if p.rooted then [] else cwd) p

theorem descend_eq (p : Path ν) :
    descend pos p = follow pos (List.replicate p.ups .up) ++ p.names := by
  rw [descend, Path.segs, follow_append, follow_names]

/-- A path without steps up stays below its starting point. -/
theorem descend_of_ups {p : Path ν} (h : p.ups = 0) : descend pos p = pos ++ p.names := by
  rw [descend_eq, h, List.replicate_zero, follow_nil]

theorem descend_here (rooted : Bool) : descend pos (here rooted) = pos := by
  simp [descend, Path.segs, here]

/-- From the root no step up is possible, and none is recorded. -/
theorem descend_above {p : Path ν} (hpos : p.rooted = true → pos = []) :
    descend pos p.above = (descend pos p).dropLast := by
  unfold above
  split
  · next n ns hnames =>
    simp only [descend_eq, hnames]
    rw [List.dropLast_append_of_ne_nil (List.cons_ne_nil n ns)]
  · next hnames =>
    split
    · next hrooted => simp [descend_of_ups (p.ups_of_rooted hrooted), hpos hrooted, hnames]
    · simp [descend_eq, hnames, List.replicate_succ', follow_append, go]

theorem descend_push {p : Path ν} {s : Seg ν} (hpos : p.rooted = true → pos = []) :
    descend pos (p.push s) = go (descend pos p) s := by
  cases s with
  | name n => simp [descend_eq, push, go, List.append_assoc]
  | up => exact descend_above hpos

theorem rooted_foldl_push (p : Path ν) : (l.foldl push p).rooted = p.rooted := by
  induction l generalizing p with
  | nil => rfl
  | cons s l ih => rw [List.foldl_cons, ih, rooted_push]

@[simp] theorem rooted_clean (rooted : Bool) : (clean rooted l).rooted = rooted :=
  rooted_foldl_push _

theorem descend_foldl_push {p : Path ν} (hpos : p.rooted = true → pos = []) :
    descend pos (l.foldl push p) = follow (descend pos p) l := by
  induction l generalizing p with
  | nil => rfl
  | cons s l ih =>
      rw [List.foldl_cons, ih (by rwa [rooted_push]), descend_push hpos, follow_cons]

/-- **Cleaning keeps the meaning**: the clean form leads where the components do. -/
theorem descend_clean {rooted : Bool} (hpos : rooted = true → pos = []) :
    descend pos (clean rooted l) = follow pos l := by
  rw [clean, descend_foldl_push hpos, descend_here]

/-! ## Paths that stay below their starting point -/

theorem ups_le_above (p : Path ν) : p.ups ≤ p.above.ups := by
  unfold above
  split
  · exact Nat.le_refl _
  · split
    · exact Nat.le_refl _
    · exact Nat.le_succ _

theorem ups_le_push (p : Path ν) (s : Seg ν) : p.ups ≤ (p.push s).ups := by
  cases s with
  | name n => exact Nat.le_refl _
  | up => exact ups_le_above p

theorem ups_le_foldl_push (p : Path ν) : p.ups ≤ (l.foldl push p).ups := by
  induction l generalizing p with
  | nil => exact Nat.le_refl _
  | cons s l ih => exact (ups_le_push p s).trans (ih _)

/-- A walk that never leaves its starting point upwards goes on from any other path. -/
theorem foldl_push_of_ups (p : Path ν) (h : (clean false l).ups = 0) :
    l.foldl push p = { p with names := p.names ++ (clean false l).names } := by
  induction l using List.reverseRecOn with
  | nil => simp [clean, here]
  | append_singleton l s ih =>
      have hclean : clean false (l ++ [s]) = (clean false l).push s := by
        rw [clean, List.foldl_append]
        rfl
      rw [hclean] at h ⊢
      have hl : (clean false l).ups = 0 := Nat.le_zero.mp (h ▸ ups_le_push _ s)
      rw [List.foldl_append, ih hl, List.foldl_cons, List.foldl_nil]
      cases s with
      | name n => simp [push, List.append_assoc]
      | up =>
          have hne : (clean false l).names ≠ [] := by
            intro hnil
            simp [push, above, hnil] at h
          obtain ⟨n, ns, hcons⟩ := List.exists_cons_of_ne_nil hne
          have happ : p.names ++ (clean false l).names ≠ [] :=
            List.append_ne_nil_of_right_ne_nil _ hne
          obtain ⟨m, ms, happ'⟩ := List.exists_cons_of_ne_nil happ
          simp only [push, above, hcons]
          rw [hcons] at happ'
          simp only [happ']
          rw [← happ', List.dropLast_append_of_ne_nil (List.cons_ne_nil n ns)]

/-- The names at its end are gone down from wherever the rest leads. -/
theorem walk_names (cwd : List ν) (p : Path ν) (ns : List ν) :
    walk cwd { p with names := p.names ++ ns } = walk cwd p ++ ns := by
  simp [walk, descend_eq]

/-! ## The normal form -/

theorem foldl_push_names (p : Path ν) :
    (ns.map Seg.name).foldl push p = { p with names := p.names ++ ns } := by
  induction ns generalizing p with
  | nil => simp
  | cons n ns ih => simp [ih, push]

theorem foldl_push_ups {n : Nat} (k : Nat) (h : false = true → k = 0) :
    (List.replicate n Seg.up).foldl push (⟨false, k, [], h⟩ : Path ν) =
      ⟨false, k + n, [], by simp⟩ := by
  induction n generalizing k with
  | zero => rfl
  | succ n ih => simp [List.replicate_succ, push, above, ih, Nat.add_comm, Nat.add_left_comm]

/-- A clean path is its own clean form. -/
theorem clean_segs (p : Path ν) : clean p.rooted p.segs = p := by
  obtain ⟨rooted, ups, names, h⟩ := p
  rw [clean, Path.segs, List.foldl_append, here]
  cases rooted with
  | false =>
      rw [foldl_push_ups, foldl_push_names]
      simp
  | true =>
      obtain rfl : ups = 0 := h rfl
      rw [List.replicate_zero, List.foldl_nil, foldl_push_names]
      simp

/-! ## Joining -/

/-- One path after the other. -/
def join (p q : Path ν) : Path ν := clean p.rooted (p.segs ++ q.segs)

@[simp] theorem rooted_join (p q : Path ν) : (join p q).rooted = p.rooted := rooted_clean _

theorem descend_join {p q : Path ν} (hpos : p.rooted = true → pos = []) :
    descend pos (join p q) = descend (descend pos p) q := by
  rw [join, descend_clean hpos, follow_append, descend, descend]

/-- The joined path leads from wherever the first leads, along the second. -/
theorem walk_join (cwd : List ν) (p q : Path ν) :
    walk cwd (join p q) = descend (walk cwd p) q := by
  unfold walk
  rw [rooted_join, descend_join]
  intro h
  rw [if_pos h]

/-- The directory that a path lies in. -/
def dir (p : Path ν) : Path ν :=
  if p.names = [] then ⟨p.rooted, p.ups - 1, [], fun h => by rw [p.ups_of_rooted h]⟩
  else { p with names := p.names.dropLast }

/-- The directory of a path that ends in a name is where that name is. -/
theorem walk_dir (cwd : List ν) {p : Path ν} (h : p.names ≠ []) :
    walk cwd (dir p) = (walk cwd p).dropLast := by
  rw [dir, if_neg h]
  simp only [walk, descend_eq]
  rw [List.dropLast_append_of_ne_nil h]

/-- A path and its directory are on one line, also where the directory is only said to be one. -/
theorem walk_dir_comparable (cwd : List ν) (p : Path ν) :
    walk cwd (dir p) <+: walk cwd p ∨ walk cwd p <+: walk cwd (dir p) := by
  by_cases h : p.names = []
  · right
    obtain ⟨rooted, ups, names, hr⟩ := p
    obtain rfl : names = [] := h
    cases ups with
    | zero => exact List.prefix_rfl
    | succ n =>
        simp only [dir, walk, descend_eq, List.append_nil, if_pos, Nat.add_sub_cancel,
          List.replicate_succ', follow_append, follow_cons, follow_nil, go]
        exact List.dropLast_prefix _
  · left
    rw [walk_dir cwd h]
    exact List.dropLast_prefix _

/-! ## Relative paths -/

/-- The end of a clean path, if it does not begin with a step up, has none. -/
theorem eq_names_of_suffix {p : Path ν} {rest : List (Seg ν)} (h : rest <:+ p.segs)
    (hup : rest.head? ≠ some .up) : ∃ ns : List ν, rest = ns.map .name := by
  rw [Path.segs] at h
  generalize p.ups = ups at h
  induction ups with
  | zero =>
      rw [List.replicate_zero, List.nil_append] at h
      obtain ⟨start, h⟩ := h
      obtain ⟨_, ns, -, -, rfl⟩ := List.map_eq_append_iff.mp h.symm
      exact ⟨ns, rfl⟩
  | succ n ih =>
      rw [List.replicate_succ, List.cons_append] at h
      rcases List.suffix_cons_iff.mp h with rfl | h
      · exact absurd rfl hup
      · exact ih h

section Relative

variable [DecidableEq ν]

/-- What is left of two lists after their longest common start. -/
def stripCommon {α : Type} [DecidableEq α] : List α → List α → List α × List α
  | a :: as, b :: bs => if a = b then stripCommon as bs else (a :: as, b :: bs)
  | as, bs => (as, bs)

theorem stripCommon_spec {α : Type} [DecidableEq α] (as bs : List α) :
    ∃ common, as = common ++ (stripCommon as bs).1 ∧ bs = common ++ (stripCommon as bs).2 := by
  induction as generalizing bs with
  | nil => exact ⟨[], by simp [stripCommon]⟩
  | cons a as ih =>
      cases bs with
      | nil => exact ⟨[], by simp [stripCommon]⟩
      | cons b bs =>
          unfold stripCommon
          split
          · next hab =>
            obtain ⟨common, has, hbs⟩ := ih bs
            exact ⟨a :: common, congrArg _ has, by rw [hab]; exact congrArg _ hbs⟩
          · exact ⟨[], rfl, rfl⟩

/-- The path from `base` to `target`: up from what only the base has, and down to what only the
target has. There is none if it would need the name of the directory the base starts in. -/
def rel (base target : Path ν) : Option (Path ν) :=
  if base.rooted = target.rooted then
    let rest := stripCommon base.segs target.segs
    if rest.1.head? = some .up then none
    else some (clean false (List.replicate rest.1.length .up ++ rest.2))
  else none

theorem rooted_of_rel {base target r : Path ν} (h : rel base target = some r) :
    r.rooted = false := by
  unfold rel at h
  split at h
  · dsimp only at h
    split at h
    · cases h
    · cases h
      exact rooted_clean _
  · cases h

/-- **A relative path leads from its base to its target.** -/
theorem walk_rel {cwd : List ν} {base target r : Path ν} (h : rel base target = some r) :
    descend (walk cwd base) r = walk cwd target := by
  unfold rel at h
  split at h
  · next hrooted =>
    obtain ⟨common, hbase, htarget⟩ := stripCommon_spec base.segs target.segs
    dsimp only at h
    generalize stripCommon base.segs target.segs = rest at h hbase htarget
    split at h
    · cases h
    · next hup =>
      cases h
      obtain ⟨ns, hnames⟩ := eq_names_of_suffix ⟨common, hbase.symm⟩ hup
      rw [descend_clean (by simp), walk, walk, ← hrooted, descend, descend, hbase, htarget, hnames,
        List.length_map, follow_append, follow_append, follow_append, follow_names, follow_ups]
  · cases h

end Relative

/-! ## Texts -/

/-- A name: not empty, without a separator, and neither of the two names with a meaning. -/
def IsName (n : List Char) : Prop := n ≠ [] ∧ n ≠ ['.'] ∧ n ≠ ['.', '.'] ∧ '/' ∉ n

instance (n : List Char) : Decidable (IsName n) := inferInstanceAs (Decidable (_ ∧ _ ∧ _ ∧ _))

abbrev Name := { n : List Char // IsName n }

/-- The component that a field between two separators stands for, if any. -/
def segOf (field : List Char) : Option (Seg Name) :=
  if field = ['.', '.'] then some .up
  else if h : IsName field then some (.name ⟨field, h⟩) else none

/-- The components of a path that is given as a text. -/
def segsOfText (text : List Char) : List (Seg Name) := (text.splitOn '/').filterMap segOf

/-- The clean form of a path that is given as a text. -/
def ofText (text : List Char) : Path Name := clean (text.head? == some '/') (segsOfText text)

/-- A clean path joined with a text, which goes on from there even if it begins with a separator. -/
def joinText (p : Path Name) (text : List Char) : Path Name :=
  clean p.rooted (p.segs ++ segsOfText text)

/-- A text as what `joinText` makes of it: a path from somewhere. -/
def relText (text : List Char) : Path Name := clean false (segsOfText text)

/-- The directory part of a text, cleaned: everything before the last separator. -/
def dirOfText (text : List Char) : Path Name :=
  clean (text.head? == some '/') ((text.splitOn '/').dropLast.filterMap segOf)

def Seg.text : Seg Name → List Char
  | .name n => n.1
  | .up => ['.', '.']

/-- A clean path as a text. -/
def Path.text (p : Path Name) : List Char :=
  if p.rooted then '/' :: ['/'].intercalate (p.segs.map Seg.text)
  else if p.segs = [] then ['.'] else ['/'].intercalate (p.segs.map Seg.text)

@[simp] theorem rooted_joinText (p : Path Name) (text : List Char) :
    (joinText p text).rooted = p.rooted := rooted_clean _

theorem walk_joinText (cwd : List Name) (p : Path Name) (text : List Char) :
    walk cwd (joinText p text) = descend (walk cwd p) (relText text) := by
  unfold walk relText
  rw [rooted_joinText, joinText, descend_clean, descend_clean, follow_append, descend]
  · intro h
    cases h
  · intro h
    rw [if_pos h]

/-- A text that stays below is appended. -/
theorem joinText_of_ups (p : Path Name) {text : List Char} (h : (relText text).ups = 0) :
    joinText p text = { p with names := p.names ++ (relText text).names } := by
  rw [joinText, clean, List.foldl_append]
  have hp : p.segs.foldl push (here p.rooted) = p := clean_segs p
  rw [hp, foldl_push_of_ups p h]
  rfl

/-- The directory part of a text that stays below stays below. -/
theorem ups_dirOfText {text : List Char} (h : (relText text).ups = 0) :
    (dirOfText text).ups = 0 := by
  by_cases hrooted : (text.head? == some '/') = true
  · exact (dirOfText text).ups_of_rooted (by rw [dirOfText, rooted_clean, hrooted])
  · rw [Bool.not_eq_true] at hrooted
    have hsegs : segsOfText text =
        (text.splitOn '/').dropLast.filterMap segOf ++
          [(text.splitOn '/').getLast (List.splitOn_ne_nil _ _)].filterMap segOf := by
      rw [← List.filterMap_append, List.dropLast_append_getLast, segsOfText]
    rw [relText, clean, hsegs, List.foldl_append] at h
    rw [dirOfText, hrooted]
    exact Nat.le_zero.mp (h ▸ ups_le_foldl_push _)

@[simp] theorem segOf_text (s : Seg Name) : segOf s.text = some s := by
  cases s with
  | name n =>
      obtain ⟨n, hn⟩ := n
      simp [segOf, Seg.text, hn, hn.2.2.1]
  | up => rfl

theorem slash_notMem_text (s : Seg Name) : '/' ∉ s.text := by
  cases s with
  | name n => exact n.2.2.2.2
  | up => decide

theorem text_ne_nil (s : Seg Name) : s.text ≠ [] := by
  cases s with
  | name n => exact n.2.1
  | up => exact List.cons_ne_nil _ _

theorem splitOn_intercalate_text {segs : List (Seg Name)} (h : segs ≠ []) :
    (['/'].intercalate (segs.map Seg.text)).splitOn '/' = segs.map Seg.text := by
  apply List.splitOn_intercalate
  · intro field hfield
    obtain ⟨s, -, rfl⟩ := List.mem_map.mp hfield
    exact slash_notMem_text s
  · simpa using h

theorem filterMap_segOf_text (segs : List (Seg Name)) :
    (segs.map Seg.text).filterMap segOf = segs := by
  induction segs with
  | nil => rfl
  | cons s segs ih => simp [ih]

/-- A relative text does not begin with a separator. -/
theorem head?_intercalate_text {segs : List (Seg Name)} (h : segs ≠ []) :
    (['/'].intercalate (segs.map Seg.text)).head? ≠ some '/' := by
  obtain ⟨s, segs, rfl⟩ := List.exists_cons_of_ne_nil h
  obtain ⟨c, cs, hs⟩ := List.exists_cons_of_ne_nil (text_ne_nil s)
  have hc : c ≠ '/' := fun hc => slash_notMem_text s (hs ▸ hc ▸ List.mem_cons_self)
  cases segs <;> simp [List.intercalate_cons_cons, hs, hc]

/-- **Reading a written clean path gives it back**, so cleaning a text a second time changes
nothing. -/
theorem ofText_text (p : Path Name) : ofText p.text = p := by
  by_cases hrooted : p.rooted = true
  · have htext : p.text = '/' :: ['/'].intercalate (p.segs.map Seg.text) := by
      rw [Path.text, if_pos hrooted]
    rw [ofText, segsOfText, htext, List.splitOn_cons_eq_if_modifyHead, if_pos (BEq.refl _),
      List.filterMap_cons_none (by decide)]
    by_cases hsegs : p.segs = []
    · conv_rhs => rw [← clean_segs p, hsegs, hrooted]
      rw [hsegs]
      rfl
    · rw [splitOn_intercalate_text hsegs, filterMap_segOf_text]
      conv_rhs => rw [← clean_segs p, hrooted]
      rfl
  · have hfalse : p.rooted = false := by simpa using hrooted
    by_cases hsegs : p.segs = []
    · conv_rhs => rw [← clean_segs p, hsegs, hfalse]
      rw [Path.text, if_neg hrooted, if_pos hsegs]
      rfl
    · rw [Path.text, if_neg hrooted, if_neg hsegs, ofText, segsOfText,
        splitOn_intercalate_text hsegs, filterMap_segOf_text, beq_false_of_ne (head?_intercalate_text hsegs)]
      conv_rhs => rw [← clean_segs p, hfalse]

/-- A relative path, written down and joined to another, is that path. -/
theorem relText_text {p : Path Name} (h : p.rooted = false) : relText p.text = p := by
  have hp := ofText_text p
  have hhead : (p.text.head? == some '/') = false := by
    rw [← h, ← congrArg Path.rooted hp, ofText, rooted_clean]
  rwa [ofText, hhead] at hp

example : (ofText "a//b/../c/.".toList).text = "a/c".toList := by decide

example : (rel (ofText "/out/gen".toList) (ofText "/out/dep".toList)).map Path.text =
    some "../dep".toList := by decide

end Paths
