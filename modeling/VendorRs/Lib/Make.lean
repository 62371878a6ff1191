import VendorRs.Lib.Fields
import VendorRs.Lib.Tokens

/-!
# The text functions of `make`

In a makefile everything is a text, and a list is a text with blanks between its words. The
functions on texts come in two kinds: those that work on the characters (`subst`, `findstring`) and
those that work on the words (`strip`, `filter`, `patsubst`, `foreach`). The words of a text are
what `words` finds; to write a list of words and to find them again is the same list
(`words_unwords`).

A backslash in front of a percent sign has no meaning here.
-/

namespace Make

abbrev Text : Type := List Char

def isBlank (c : Char) : Bool :=
  c = ' ' || c = '\t' || c = '\n' || c = '\r' || c = '\x0b' || c = '\x0c'

def words (text : Text) : List Text := Tokens.tokens isBlank text

def unwords (ws : List Text) : Text := [' '].intercalate ws

/-- What `words` finds. -/
def IsWord (w : Text) : Prop := w ≠ [] ∧ ∀ c ∈ w, isBlank c = false

instance (w : Text) : Decidable (IsWord w) :=
  have : Decidable (∀ c ∈ w, isBlank c = false) := List.decidableBAll _ w
  inferInstanceAs (Decidable (w ≠ [] ∧ ∀ c ∈ w, isBlank c = false))

/-! ## The functions -/

def strip (text : Text) : Text := unwords (words text)

/-- The empty text occurs once, at the end. -/
def subst (source target text : Text) : Text :=
  if source = [] then text ++ target else Fields.replace source target text

def findstring (find text : Text) : Text := if find <:+: text then find else []

/-- A pattern at its first percent sign. -/
def splitPercent (pattern : Text) : Option (Text × Text) :=
  if '%' ∈ pattern then
    some (pattern.takeWhile (· ≠ '%'), (pattern.dropWhile (· ≠ '%')).drop 1)
  else none

/-- What the percent sign of a pattern stands for in a word, if the word matches. -/
def stem (before behind word : Text) : Option Text :=
  if before.length + behind.length ≤ word.length ∧ before <+: word ∧ behind <:+ word then
    some ((word.drop before.length).take (word.length - before.length - behind.length))
  else none

def matchesPattern (pattern word : Text) : Bool :=
  match splitPercent pattern with
  | some (before, behind) => (stem before behind word).isSome
  | none => word = pattern

def patsubstWord (pattern replacement word : Text) : Text :=
  match splitPercent pattern with
  | some (before, behind) =>
      match stem before behind word with
      | some s =>
          match splitPercent replacement with
          | some (before', behind') => before' ++ s ++ behind'
          | none => replacement
      | none => word
  | none => if word = pattern then replacement else word

def filter (patterns text : Text) : Text :=
  unwords ((words text).filter fun word => (words patterns).any (matchesPattern · word))

/-- A word that is replaced by nothing leaves no blank either. -/
def patsubst (pattern replacement text : Text) : Text :=
  unwords (((words text).map (patsubstWord pattern replacement)).filter (· ≠ []))

def foreach (list : Text) (body : Text → Text) : Text := unwords ((words list).map body)

variable {text w x before : Text} {ws : List Text}

/-! ## Words -/

theorem isWord_of_mem_words (h : w ∈ words text) : IsWord w := Tokens.of_mem_tokens h

/-- **The words of a list that was written are the words of the list.** -/
theorem words_unwords (h : ∀ w ∈ ws, IsWord w) : words (unwords ws) = ws := by
  rw [words, unwords, Tokens.tokens_intercalate rfl fun w hw => (h w hw).2, List.filter_eq_self]
  intro w hw
  simpa using (h w hw).1

@[simp] theorem words_strip (text : Text) : words (strip text) = words text :=
  words_unwords fun _ => isWord_of_mem_words

theorem words_of_isWord (h : IsWord w) : words w = [w] := Tokens.tokens_last h.1 h.2

theorem strip_of_isWord (h : IsWord w) : strip w = w := by
  rw [strip, words_of_isWord h]
  exact List.intercalate_singleton

@[simp] theorem strip_strip (text : Text) : strip (strip text) = strip text := by
  rw [strip, words_strip, strip]

@[simp] theorem strip_nil : strip [] = [] := rfl

theorem strip_eq_nil_iff : strip text = [] ↔ words text = [] := by
  constructor
  · intro h
    rw [← words_strip, h]
    rfl
  · intro h
    rw [strip, h]
    rfl

theorem words_append_blank (l r : Text) : words (l ++ ' ' :: r) = words l ++ words r :=
  Tokens.tokens_append_cons rfl l r

/-- Blanks in front of a text are not part of its words. -/
theorem words_dropWhile_blank (text : Text) : words (text.dropWhile isBlank) = words text := by
  induction text with
  | nil => rfl
  | cons c text ih =>
      by_cases hc : isBlank c = true
      · rw [List.dropWhile_cons_of_pos hc, ih]
        exact (Tokens.tokens_skip hc).symm
      · rw [List.dropWhile_cons_of_neg hc]

theorem isWord_append (hw : IsWord w) (hx : IsWord x) : IsWord (w ++ x) := by
  refine ⟨List.append_ne_nil_of_left_ne_nil hw.1 x, ?_⟩
  intro c hc
  rcases List.mem_append.mp hc with hc | hc
  · exact hw.2 c hc
  · exact hx.2 c hc

theorem dropWhile_blank_of_isWord (h : IsWord w) : w.dropWhile isBlank = w := by
  obtain ⟨c, rest, rfl⟩ := List.exists_cons_of_ne_nil h.1
  rw [List.dropWhile_cons_of_neg (by simp [h.2 c List.mem_cons_self])]

/-! ## Characters -/

theorem subst_nil_right (h : x ≠ []) (text : Text) : subst x [] text = Fields.delete x text := by
  rw [subst, if_neg h, Fields.replace_nil]

/-- **Two texts are the same if each leaves nothing of the other.** -/
theorem eq_iff_subst_eq_nil : subst w [] x = [] ∧ subst x [] w = [] ↔ w = x := by
  constructor
  · rintro ⟨hx, hw⟩
    by_cases hwnil : w = []
    · subst hwnil
      simpa [subst] using hx.symm
    · by_cases hxnil : x = []
      · subst hxnil
        simpa [subst] using hw
      · rw [subst_nil_right hwnil] at hx
        rw [subst_nil_right hxnil] at hw
        have hwx := Fields.prefix_of_delete_eq_nil hxnil hx
        have hxw := Fields.prefix_of_delete_eq_nil hwnil hw
        exact hwx.eq_of_length (Nat.le_antisymm hwx.length_le hxw.length_le)
  · rintro rfl
    have hself : subst w [] w = [] := by
      by_cases hw : w = []
      · rw [hw]
        rfl
      · rw [subst_nil_right hw, Fields.delete_self]
    exact ⟨hself, hself⟩

theorem findstring_eq_nil_iff (h : w ≠ []) : findstring w text = [] ↔ ¬ w <:+: text := by
  unfold findstring
  split
  · next hfound => exact iff_of_false h (not_not_intro hfound)
  · next hfound => exact iff_of_true rfl hfound

/-- The words with another separator between them. -/
theorem subst_blank_strip {c : Char} (text : Text) :
    subst [' '] [c] (strip text) = [c].intercalate (words text) := by
  rw [subst, if_neg (List.cons_ne_nil _ _), strip, unwords]
  apply Fields.replace_intercalate (List.cons_ne_nil _ _)
  intro w hw hin
  have hblank : ' ' ∈ w := by simpa using hin.subset (List.mem_singleton_self ' ')
  have hfree := (isWord_of_mem_words hw).2 ' ' hblank
  cases hfree

/-! ## Patterns -/

/-- A pattern that ends with its only percent sign. -/
theorem splitPercent_snoc (h : '%' ∉ before) :
    splitPercent (before ++ ['%']) = some (before, []) := by
  have hbefore : ∀ c ∈ before, decide (c ≠ '%') = true := by
    intro c hc
    have hne : c ≠ '%' := by
      rintro rfl
      exact h hc
    simpa using hne
  rw [splitPercent, if_pos (by simp), List.takeWhile_append_of_pos hbefore,
    List.dropWhile_append_of_pos hbefore]
  simp

theorem stem_nil :
    stem before [] w = if before <+: w then some (w.drop before.length) else none := by
  unfold stem
  by_cases hprefix : before <+: w
  · have hlen := hprefix.length_le
    rw [if_pos ⟨by simpa using hlen, hprefix, List.nil_suffix⟩, if_pos hprefix]
    simp
  · rw [if_neg (fun h => hprefix h.2.1), if_neg hprefix]

/-- A word with a prefix becomes what it is replaced by. -/
theorem patsubstWord_prefix (hbefore : '%' ∉ before) (hx : '%' ∉ x) (w : Text) :
    patsubstWord (before ++ ['%']) x w = if before <+: w then x else w := by
  rw [patsubstWord, splitPercent_snoc hbefore]
  dsimp only
  rw [stem_nil]
  by_cases h : before <+: w
  · simp [h, splitPercent, hx]
  · simp [h]

/-- Each word with the prefix is replaced, and there are as many as before. -/
theorem patsubst_eq_unwords (hbefore : '%' ∉ before) (hx : '%' ∉ x) (hword : IsWord x)
    (text : Text) :
    patsubst (before ++ ['%']) x text =
      unwords ((words text).map fun w => if before <+: w then x else w) := by
  rw [patsubst, List.map_congr_left fun w _ => patsubstWord_prefix hbefore hx w,
    List.filter_eq_self.mpr]
  intro w hw
  obtain ⟨w', hw', rfl⟩ := List.mem_map.mp hw
  split
  · simpa using hword.1
  · simpa using (isWord_of_mem_words hw').1

theorem words_patsubst_prefix (hbefore : '%' ∉ before) (hx : '%' ∉ x) (hword : IsWord x)
    (text : Text) :
    words (patsubst (before ++ ['%']) x text) =
      (words text).map fun w => if before <+: w then x else w := by
  rw [patsubst_eq_unwords hbefore hx hword, words_unwords]
  intro w hw
  obtain ⟨w', hw', rfl⟩ := List.mem_map.mp hw
  split
  · exact hword
  · exact isWord_of_mem_words hw'

end Make
