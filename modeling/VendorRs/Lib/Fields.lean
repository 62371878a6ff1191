import Mathlib.Tactic.Common
import Mathlib.Data.List.Infix

/-!
# Fields between separators, and parts deleted from them

A text that is cut at each separator is a list of fields (`List.splitOn`), none of which has a
separator in it. Deleting a part wherever it occurs, from the left and without overlaps, is done
field by field if the part has no separator in it either (`splitOn_delete`): no occurrence reaches
over a separator.

The alphabet, the separator and the part are arbitrary.
-/

namespace Fields

variable {α : Type} {sep a : α} {l x f rest : List α} {n : Nat}

/-! ## Fields -/

theorem flatMap_eq_intercalate {ps : List (List α)} (hne : ps ≠ []) :
    ps.flatMap (· ++ [sep]) = [sep].intercalate ps ++ [sep] := by
  induction ps with
  | nil => exact absurd rfl hne
  | cons p ps ih =>
      cases ps with
      | nil => simp
      | cons q ps =>
          rw [List.flatMap_cons, ih (List.cons_ne_nil q ps), List.intercalate_cons_cons]
          simp only [List.append_assoc]

/-- A separator in front of the fields is one behind them. -/
theorem cons_flatMap (sep : α) (fs : List (List α)) :
    sep :: fs.flatMap (· ++ [sep]) = fs.flatMap (sep :: ·) ++ [sep] := by
  induction fs with
  | nil => rfl
  | cons f fs ih =>
      rw [List.flatMap_cons, List.flatMap_cons, List.append_assoc, List.append_assoc,
        List.singleton_append, ih]
      rfl

theorem mem_of_mem_intercalate {fs : List (List α)} (h : a ∈ x.intercalate fs) :
    a ∈ x ∨ ∃ f ∈ fs, a ∈ f := by
  induction fs with
  | nil => cases h
  | cons f fs ih =>
      cases fs with
      | nil =>
          rw [List.intercalate_singleton] at h
          exact .inr ⟨f, List.mem_cons_self, h⟩
      | cons g fs =>
          rw [List.intercalate_cons_cons, List.mem_append, List.mem_append] at h
          rcases h with (hf | hx) | h
          · exact .inr ⟨f, List.mem_cons_self, hf⟩
          · exact .inl hx
          · exact (ih h).imp_right fun ⟨e, he, ha⟩ => ⟨e, List.mem_cons_of_mem f he, ha⟩

variable [DecidableEq α]

theorem not_mem_of_mem_splitOn (h : f ∈ l.splitOn sep) : sep ∉ f := by
  induction l generalizing f with
  | nil =>
      rw [List.splitOn_nil, List.mem_singleton] at h
      rw [h]
      exact List.not_mem_nil
  | cons a l ih =>
      rw [List.splitOn_cons_eq_if_modifyHead] at h
      obtain ⟨p, ps, hsplit⟩ := List.exists_cons_of_ne_nil (List.splitOn_ne_nil sep l)
      rw [hsplit] at h ih
      split at h
      · rcases List.mem_cons.mp h with rfl | h
        · exact List.not_mem_nil
        · exact ih h
      · next ha =>
          rw [List.modifyHead_cons] at h
          rcases List.mem_cons.mp h with rfl | h
          · intro hmem
            rcases List.mem_cons.mp hmem with rfl | hmem
            · exact ha (BEq.refl _)
            · exact ih List.mem_cons_self hmem
          · exact ih (List.mem_cons_of_mem p h)

/-- The fields, each with a separator behind it. -/
theorem flatMap_splitOn (sep : α) (l : List α) :
    (l.splitOn sep).flatMap (· ++ [sep]) = l ++ [sep] := by
  rw [flatMap_eq_intercalate (List.splitOn_ne_nil sep l), List.intercalate_splitOn]

theorem infix_of_mem_splitOn (h : f ∈ l.splitOn sep) : f <:+: l := by
  have hinfix : f ++ [sep] <:+: l ++ [sep] := by
    rw [← flatMap_splitOn sep l, List.flatMap_def]
    exact List.infix_of_mem_flatten (List.mem_map_of_mem h)
  obtain ⟨a, b, hab⟩ := hinfix
  -- the separator behind the field is the last one, or there is more behind it
  rcases List.eq_nil_or_concat b with rfl | ⟨b, c, rfl⟩
  · refine ⟨a, [], ?_⟩
    rw [List.append_nil, ← List.append_assoc] at hab
    rw [List.append_nil]
    exact List.append_cancel_right hab
  · refine ⟨a, sep :: b, ?_⟩
    rw [List.concat_eq_append, ← List.append_assoc] at hab
    have hl := (List.append_inj' hab rfl).1
    simpa using hl

/-- **To look for a text between separators is to look for its fields**, one after the other among
those of the text that is searched. -/
theorem enclosed_infix_iff {x : List α} :
    sep :: (x ++ [sep]) <:+: sep :: (l ++ [sep]) ↔ x.splitOn sep <:+: l.splitOn sep := by
  constructor
  · rintro ⟨a, b, hab⟩
    have hfields : a.splitOn sep ++ (x.splitOn sep ++ b.splitOn sep) =
        [] :: (l.splitOn sep ++ [[]]) := by
      have hl : (sep :: (l ++ [sep])).splitOn sep = [] :: (l.splitOn sep ++ [[]]) := by
        rw [← List.nil_append (sep :: (l ++ [sep])), List.splitOn_append_cons_self,
          List.splitOn_append_cons_self, List.splitOn_nil]
        rfl
      rw [← hl, ← hab]
      simp only [List.append_assoc, List.cons_append, List.nil_append,
        List.splitOn_append_cons_self]
    -- the first field and the last one are those outside
    obtain ⟨f, as, has⟩ := List.exists_cons_of_ne_nil (List.splitOn_ne_nil sep a)
    have hbs := List.dropLast_append_getLast (List.splitOn_ne_nil sep b)
    rw [has, List.cons_append, List.cons.injEq, ← hbs, ← List.append_assoc,
      ← List.append_assoc] at hfields
    refine ⟨as, (b.splitOn sep).dropLast, ?_⟩
    exact (List.append_inj' hfields.2 rfl).1
  · rintro ⟨as, bs, habs⟩
    have hl := flatMap_splitOn sep l
    rw [← habs, List.flatMap_append, List.flatMap_append, flatMap_splitOn sep x] at hl
    refine ⟨as.flatMap (sep :: ·), bs.flatMap (· ++ [sep]), ?_⟩
    calc as.flatMap (sep :: ·) ++ sep :: (x ++ [sep]) ++ bs.flatMap (· ++ [sep])
        = (as.flatMap (sep :: ·) ++ [sep]) ++ (x ++ [sep]) ++ bs.flatMap (· ++ [sep]) := by simp
      _ = sep :: (as.flatMap (· ++ [sep]) ++ (x ++ [sep]) ++ bs.flatMap (· ++ [sep])) := by
          rw [← cons_flatMap]
          rfl
      _ = sep :: (l ++ [sep]) := by rw [hl]

/-! ## Deleting a part -/

/-- What is left of a text behind the next `n` elements, which belong to an occurrence found
already. -/
def deleteFrom (x : List α) : Nat → List α → List α
  | _, [] => []
  | n + 1, _ :: l => deleteFrom x n l
  | 0, a :: l =>
      if x ≠ [] ∧ x.isPrefixOf (a :: l) then deleteFrom x (x.length - 1) l
      else a :: deleteFrom x 0 l

/-- The text without the occurrences of `x`. -/
def delete (x l : List α) : List α := deleteFrom x 0 l

example : delete [1, 2] [1, 1, 2, 2, 1, 2, 3] = [1, 2, 3] := by decide

@[simp] theorem deleteFrom_nil : deleteFrom x n [] = [] := by
  cases n <;> rfl

theorem deleteFrom_zero_cons :
    deleteFrom x 0 (a :: l) =
      if x ≠ [] ∧ x.isPrefixOf (a :: l) then deleteFrom x (x.length - 1) l
      else a :: deleteFrom x 0 l := rfl

theorem deleteFrom_sublist : (deleteFrom x n l).Sublist l := by
  induction l generalizing n with
  | nil => simp
  | cons a l ih =>
      cases n with
      | succ n => exact ih.cons a
      | zero =>
          rw [deleteFrom_zero_cons]
          split
          · exact ih.cons a
          · exact ih.cons_cons a

theorem delete_sublist : (delete x l).Sublist l := deleteFrom_sublist

/-- A part that does not occur leaves the text as it is. -/
theorem delete_of_not_infix (h : ¬ x <:+: l) : delete x l = l := by
  induction l with
  | nil => rfl
  | cons a l ih =>
      have hprefix : ¬ (x ≠ [] ∧ x.isPrefixOf (a :: l) = true) := by
        rintro ⟨-, hprefix⟩
        exact h (List.isPrefixOf_iff_prefix.mp hprefix).isInfix
      have htail : ¬ x <:+: l := by
        intro hinfix
        exact h (List.infix_cons hinfix)
      rw [delete, deleteFrom_zero_cons, if_neg hprefix]
      exact congrArg (a :: ·) (ih htail)

/-- A part that occurs leaves less. -/
theorem length_delete_lt (hx : x ≠ []) (h : x <:+: l) : (delete x l).length < l.length := by
  induction l with
  | nil => exact absurd (List.eq_nil_of_infix_nil h) hx
  | cons a l ih =>
      rw [delete, deleteFrom_zero_cons]
      split
      · exact Nat.lt_succ_of_le deleteFrom_sublist.length_le
      · next hnot =>
          rcases List.infix_cons_iff.mp h with hprefix | hinfix
          · exact absurd ⟨hx, List.isPrefixOf_iff_prefix.mpr hprefix⟩ hnot
          · exact Nat.succ_lt_succ (ih hinfix)

/-- A text of which nothing is left begins with the part. -/
theorem prefix_of_delete_eq_nil (hl : l ≠ []) (h : delete x l = []) : x <+: l := by
  obtain ⟨a, l, rfl⟩ := List.exists_cons_of_ne_nil hl
  rw [delete, deleteFrom_zero_cons] at h
  split at h
  · next hprefix => exact List.isPrefixOf_iff_prefix.mp hprefix.2
  · cases h

theorem deleteFrom_length (l : List α) : deleteFrom x l.length l = [] := by
  induction l with
  | nil => rfl
  | cons a l ih => exact ih

@[simp] theorem delete_self (x : List α) : delete x x = [] := by
  cases x with
  | nil => rfl
  | cons a x =>
      have hprefix : a :: x ≠ [] ∧ (a :: x).isPrefixOf (a :: x) = true := by simp
      rw [delete, deleteFrom_zero_cons, if_pos hprefix]
      exact deleteFrom_length x

/-! ## Deleting a part field by field -/

/-- An occurrence does not reach over a separator. -/
theorem isPrefixOf_append_cons (hsep : sep ∉ x) :
    x.isPrefixOf (f ++ sep :: rest) = x.isPrefixOf f := by
  induction x generalizing f with
  | nil => cases f <;> rfl
  | cons b x ih =>
      obtain ⟨hb, hx⟩ : sep ≠ b ∧ sep ∉ x := by simpa using hsep
      cases f with
      | nil => simp [List.isPrefixOf, Ne.symm hb]
      | cons c f => rw [List.cons_append, List.isPrefixOf, List.isPrefixOf, ih hx]

theorem deleteFrom_append_cons (hsep : sep ∉ x) (hn : n ≤ f.length) :
    deleteFrom x n (f ++ sep :: rest) = deleteFrom x n f ++ sep :: delete x rest := by
  induction f generalizing n with
  | nil =>
      obtain rfl : n = 0 := Nat.le_zero.mp hn
      have hnot : ¬ (x ≠ [] ∧ x.isPrefixOf (sep :: rest) = true) := by
        rintro ⟨hne, hprefix⟩
        rw [← List.nil_append (sep :: rest), isPrefixOf_append_cons hsep] at hprefix
        exact hne (List.prefix_nil.mp (List.isPrefixOf_iff_prefix.mp hprefix))
      rw [List.nil_append, deleteFrom_zero_cons, if_neg hnot]
      rfl
  | cons a f ih =>
      cases n with
      | succ n => exact ih (Nat.le_of_succ_le_succ hn)
      | zero =>
          rw [List.cons_append, deleteFrom_zero_cons, deleteFrom_zero_cons, ← List.cons_append,
            isPrefixOf_append_cons hsep]
          split
          · next hprefix =>
              apply ih
              have hlen := (List.isPrefixOf_iff_prefix.mp hprefix.2).length_le
              rw [List.length_cons] at hlen
              omega
          · rw [ih (Nat.zero_le _), List.cons_append]

theorem delete_append_cons (hsep : sep ∉ x) :
    delete x (f ++ sep :: rest) = delete x f ++ sep :: delete x rest :=
  deleteFrom_append_cons hsep (Nat.zero_le _)

theorem delete_intercalate (hsep : sep ∉ x) (fs : List (List α)) :
    delete x ([sep].intercalate fs) = [sep].intercalate (fs.map (delete x)) := by
  induction fs with
  | nil => rfl
  | cons f fs ih =>
      cases fs with
      | nil => simp
      | cons g fs =>
          rw [List.intercalate_cons_cons, List.append_assoc, List.singleton_append,
            delete_append_cons hsep, ih]
          simp only [List.map_cons, List.intercalate_cons_cons, List.append_assoc,
            List.singleton_append]

/-- **The fields of a text from which a part has been deleted** are its fields without that part. -/
theorem splitOn_delete (hsep : sep ∉ x) (l : List α) :
    (delete x l).splitOn sep = (l.splitOn sep).map (delete x) := by
  have hfields : ∀ f ∈ (l.splitOn sep).map (delete x), sep ∉ f := by
    intro f hf
    obtain ⟨g, hg, rfl⟩ := List.mem_map.mp hf
    intro hmem
    exact not_mem_of_mem_splitOn hg (delete_sublist.subset hmem)
  have hne : (l.splitOn sep).map (delete x) ≠ [] := by
    rw [Ne, List.map_eq_nil_iff]
    exact List.splitOn_ne_nil sep l
  calc (delete x l).splitOn sep = (delete x ([sep].intercalate (l.splitOn sep))).splitOn sep := by
        rw [List.intercalate_splitOn]
    _ = ([sep].intercalate ((l.splitOn sep).map (delete x))).splitOn sep := by
        rw [delete_intercalate hsep]
    _ = (l.splitOn sep).map (delete x) := List.splitOn_intercalate sep hfields hne

/-- What occurs in a text occurs in one of its fields. -/
theorem exists_infix_splitOn (hx : x ≠ []) (hsep : sep ∉ x) (h : x <:+: l) :
    ∃ f ∈ l.splitOn sep, x <:+: f := by
  by_contra hnot
  push Not at hnot
  -- else nothing would be deleted
  have hsame : (l.splitOn sep).map (delete x) = l.splitOn sep := by
    calc (l.splitOn sep).map (delete x) = (l.splitOn sep).map id := by
          apply List.map_congr_left
          intro f hf
          exact delete_of_not_infix (hnot f hf)
      _ = l.splitOn sep := List.map_id _
  have hdelete : delete x l = l := by
    calc delete x l = [sep].intercalate ((delete x l).splitOn sep) := by
          rw [List.intercalate_splitOn]
      _ = [sep].intercalate (l.splitOn sep) := by rw [splitOn_delete hsep, hsame]
      _ = l := List.intercalate_splitOn sep
  have hlt := length_delete_lt hx h
  rw [hdelete] at hlt
  exact Nat.lt_irrefl _ hlt

/-! ## Replacing a part -/

/-- What becomes of a text behind the next `n` elements, which belong to an occurrence of `x`
replaced already. -/
def replaceFrom (x y : List α) : Nat → List α → List α
  | _, [] => []
  | n + 1, _ :: l => replaceFrom x y n l
  | 0, a :: l =>
      if x ≠ [] ∧ x.isPrefixOf (a :: l) then y ++ replaceFrom x y (x.length - 1) l
      else a :: replaceFrom x y 0 l

/-- The text with `y` for each occurrence of `x`, from the left. -/
def replace (x y l : List α) : List α := replaceFrom x y 0 l

example : replace [1, 2] [7] [1, 1, 2, 2, 1, 2, 3] = [1, 7, 2, 7, 3] := by decide

theorem replaceFrom_nil (n : Nat) (l : List α) : replaceFrom x [] n l = deleteFrom x n l := by
  induction l generalizing n with
  | nil => cases n <;> rfl
  | cons a l ih =>
      cases n with
      | succ n => exact ih n
      | zero =>
          rw [replaceFrom, deleteFrom_zero_cons, List.nil_append, ih, ih]

/-- To replace a part by nothing is to delete it. -/
@[simp] theorem replace_nil (x l : List α) : replace x [] l = delete x l := replaceFrom_nil 0 l

theorem replace_cons_of_ne {y : List α} (h : a ≠ sep) :
    replace [sep] y (a :: l) = a :: replace [sep] y l := by
  rw [replace, replaceFrom, if_neg]
  · rfl
  · simpa using Ne.symm h

theorem replace_cons_self {y : List α} :
    replace [sep] y (sep :: l) = y ++ replace [sep] y l := by
  rw [replace, replaceFrom, if_pos (by simp)]
  rfl

/-- A part that does not occur leaves the text as it is. -/
theorem replace_of_not_infix {y : List α} (h : ¬ x <:+: l) : replace x y l = l := by
  induction l with
  | nil => rfl
  | cons a l ih =>
      have hnot : ¬ (x ≠ [] ∧ x.isPrefixOf (a :: l) = true) := by
        rintro ⟨-, hhead⟩
        exact h (List.isPrefixOf_iff_prefix.mp hhead).isInfix
      have htail : ¬ x <:+: l := fun hin => h (List.infix_cons hin)
      rw [replace, replaceFrom, if_neg hnot]
      exact congrArg (a :: ·) (ih htail)

theorem mem_of_mem_replaceFrom {y : List α} (h : a ∈ replaceFrom x y n l) : a ∈ l ∨ a ∈ y := by
  induction l generalizing n with
  | nil => cases n <;> cases h
  | cons b l ih =>
      have hcons (h : a ∈ l ∨ a ∈ y) : a ∈ b :: l ∨ a ∈ y := h.imp_left (List.mem_cons_of_mem b)
      cases n with
      | succ n => exact hcons (ih h)
      | zero =>
          rw [replaceFrom] at h
          split at h
          · rcases List.mem_append.mp h with hy | h
            · exact .inr hy
            · exact hcons (ih h)
          · rcases List.mem_cons.mp h with rfl | h
            · exact .inl List.mem_cons_self
            · exact hcons (ih h)

theorem mem_of_mem_replace {y : List α} (h : a ∈ replace x y l) : a ∈ l ∨ a ∈ y :=
  mem_of_mem_replaceFrom h

/-- Behind an occurrence that has been replaced. -/
theorem replaceFrom_append {y : List α} (f rest : List α) :
    replaceFrom x y f.length (f ++ rest) = replace x y rest := by
  induction f with
  | nil => rfl
  | cons a f ih => exact ih

theorem replace_self_append {y : List α} (hx : x ≠ []) :
    replace x y (x ++ rest) = y ++ replace x y rest := by
  obtain ⟨a, x, rfl⟩ := List.exists_cons_of_ne_nil hx
  have hhead : (a :: x).isPrefixOf (a :: x ++ rest) = true :=
    List.isPrefixOf_iff_prefix.mpr (List.prefix_append _ _)
  rw [replace, List.cons_append, replaceFrom, if_pos ⟨hx, hhead⟩]
  exact congrArg (y ++ ·) (replaceFrom_append x rest)

/-- A field in front of the part, if the part does not begin within it. -/
theorem replace_append_self {y : List α} (hx : x ≠ []) (h : ¬ x <:+: f ++ x.dropLast) :
    replace x y (f ++ (x ++ rest)) = f ++ (y ++ replace x y rest) := by
  induction f with
  | nil => exact replace_self_append hx
  | cons a f ih =>
      have hnot : ¬ (x ≠ [] ∧ x.isPrefixOf (a :: (f ++ (x ++ rest))) = true) := by
        rintro ⟨-, hhead⟩
        -- the occurrence would end before the part does
        have hwhole : a :: f ++ x.dropLast <+: a :: (f ++ (x ++ rest)) := by
          rw [← List.cons_append]
          exact (List.prefix_append_right_inj _).mpr
            ((List.dropLast_prefix x).trans (List.prefix_append _ _))
        have hlen : x.length ≤ (a :: f ++ x.dropLast).length := by
          simp only [List.length_append, List.length_cons, List.length_dropLast]
          omega
        exact h (List.prefix_of_prefix_length_le (List.isPrefixOf_iff_prefix.mp hhead) hwhole
          hlen).isInfix
      have htail : ¬ x <:+: f ++ x.dropLast := fun hin => h (List.infix_cons hin)
      rw [List.cons_append, replace, replaceFrom, if_neg hnot]
      exact congrArg (a :: ·) (ih htail)

/-- **To replace the part between fields** is to join them with something else, if it begins within
none of them. -/
theorem replace_intercalate {fs : List (List α)} (hx : x ≠ [])
    (h : ∀ f ∈ fs, ¬ x <:+: f ++ x.dropLast) (y : List α) :
    replace x y (x.intercalate fs) = y.intercalate fs := by
  induction fs with
  | nil => rfl
  | cons f fs ih =>
      obtain ⟨hf, hfs⟩ := List.forall_mem_cons.mp h
      cases fs with
      | nil =>
          rw [List.intercalate_singleton, List.intercalate_singleton]
          exact replace_of_not_infix fun hin => hf (hin.trans (List.prefix_append _ _).isInfix)
      | cons g fs =>
          rw [List.intercalate_cons_cons, List.intercalate_cons_cons, List.append_assoc,
            List.append_assoc, replace_append_self hx hf, ih hfs]

end Fields
