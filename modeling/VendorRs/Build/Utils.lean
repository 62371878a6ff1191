import Mathlib.Data.List.TakeWhile
import VendorRs.Lib.Make

/-!
# Matching words in makefiles

`make` has no test for equality and none for membership, so `utils.mk` makes them from text
substitution: two words are the same if each leaves nothing of the other, and a word is on a list if
it is found in it with colons instead of blanks. The functions keep their intermediate results in
variables that all makefiles share. A variable is given here by what it expands to.

The first test is exact (`matchWord_eq`). The second one is as long as there are no colons in the
words: it looks for the parts between the colons (`matchWordInList_yields`).

What `eval` assigns is read twice: once as its argument, and then as part of a makefile, where a
dollar begins a variable again and a number sign a comment. What comes of such a text is left to the
`Reader`; the results are about words that it takes as they are.
-/

namespace VendorRs.Build

open Make

/-- The variables, which are empty until something is assigned to them. -/
abbrev Vars : Type := String → Text

/-- A text that means the same when it is read once more. -/
def Literal (text : Text) : Prop := ∀ c ∈ text, c ≠ '$' ∧ c ≠ '#' ∧ c ≠ '\\' ∧ c ≠ '\n'

instance (text : Text) : Decidable (Literal text) := List.decidableBAll _ text

/-- How `make` reads the value of an assignment. -/
structure Reader where
  read : Text → StateM Vars Text
  read_literal : ∀ text, Literal text → read text = pure text

/-- One that takes away comments, and has no variables to expand. -/
def uncommented : Reader where
  read text := pure (text.takeWhile (· ≠ '#'))
  read_literal text h := by
    rw [List.takeWhile_eq_self_iff.mpr]
    intro c hc
    simpa using (h c hc).2.1

/-- `:=`, with a value that has been read. -/
def assign (name : String) (value : Text) : StateM Vars Unit :=
  modify fun vars => Function.update vars name value

/-- `+=` -/
def append (name : String) (value : Text) : StateM Vars Unit :=
  modify fun vars => Function.update vars name
    (if vars name = [] then value else vars name ++ ' ' :: value)

/-- `$(eval ..)` of a `:=`. Blanks in front of the value are not part of it. -/
def evalAssign (make : Reader) (name : String) (value : Text) : StateM Vars Unit := do
  assign name (← make.read (value.dropWhile isBlank))

/-- `$(eval ..)` of a `+=`. -/
def evalAppend (make : Reader) (name : String) (value : Text) : StateM Vars Unit := do
  append name (← make.read (value.dropWhile isBlank))

def lookup (name : String) : StateM Vars Text := fun vars => (vars name, vars)

def underscore : Text := ['_']

/-- What the functions return for yes. -/
def yes : Text := "true".toList

/-- `$(if ..)` -/
def ifText (condition thenPart elsePart : Text) : Text :=
  if condition ≠ [] then thenPart else elsePart

/-- `$(or ..)` -/
def orText (first second : Text) : Text := if first ≠ [] then first else second

/-! ## The functions -/

def matchWord (w1 w2 : Text) : Text :=
  strip (ifText (orText (subst w1 [] w2) (subst w2 [] w1)) [] yes)

section Functions

variable (make : Reader)

def findWordInList (word wlist : Text) : StateM Vars Text := do
  evalAssign make "wl" (':' :: (subst [' '] [':'] (strip wlist) ++ [':']))
  evalAssign make "w" (':' :: (strip word ++ [':']))
  evalAssign make "m" (findstring (← lookup "w") (← lookup "wl"))
  return strip (ifText (← lookup "m") word [])

def matchWordInList (word wlist : Text) : StateM Vars Text := do
  if strip word ≠ [] then
    let found ← findWordInList make word wlist
    return strip (matchWord found (strip word))
  else
    return strip []

def matchPrefix (p delim wlist : Text) : StateM Vars Text := do
  evalAssign make "w" (strip (p ++ strip delim))
  evalAssign make "text" (patsubst ((← lookup "w") ++ ['%']) p wlist)
  let found ← matchWordInList make p (← lookup "text")
  return strip (ifText found yes [])

end Functions

/-! ## What they come to -/

/-- What a test returns. -/
def truth (p : Prop) [Decidable p] : Text := if p then yes else []

/-- The function returns the text, and leaves all but a few variables as they were. -/
structure Yields (f : StateM Vars Text) (vars : Vars) (text : Text) (names : List String) :
    Prop where
  returns : (f vars).1 = text
  keeps : ∀ name, name ∉ names → (f vars).2 name = vars name

/-- The parts of a word between its colons. -/
def parts (word : Text) : List Text := word.splitOn ':'

variable {make : Reader} {vars : Vars} {word wlist p delim text : Text} {ws : List Text} {q : Prop}
  [Decidable q]

section Run

variable {α β : Type} (vars : Vars) (name : String) (value : Text)

@[simp] theorem bind_run (f : StateM Vars α) (g : α → StateM Vars β) :
    (f >>= g) vars = g (f vars).1 (f vars).2 := rfl

@[simp] theorem pure_run (a : α) : (pure a : StateM Vars α) vars = (a, vars) := rfl

@[simp] theorem assign_run :
    assign name value vars = ((), Function.update vars name value) := rfl

@[simp] theorem append_run :
    append name value vars = ((), Function.update vars name
      (if vars name = [] then value else vars name ++ ' ' :: value)) := rfl

@[simp] theorem lookup_run : lookup name vars = (vars name, vars) := rfl

end Run

/-! ## What is read twice -/

theorem Literal.sublist (h : Literal wlist) (hsub : word.Sublist wlist) : Literal word :=
  fun c hc => h c (hsub.subset hc)

theorem Literal.append (hword : Literal word) (htext : Literal text) : Literal (word ++ text) :=
  List.forall_mem_append.mpr ⟨hword, htext⟩

theorem Literal.intercalate {m : Text} (hm : Literal m) (h : ∀ w ∈ ws, Literal w) :
    Literal (m.intercalate ws) := by
  intro c hc
  rcases Fields.mem_of_mem_intercalate hc with hc | ⟨w, hw, hc⟩
  · exact hm c hc
  · exact h w hw c hc

theorem Literal.strip (h : ∀ w ∈ words word, Literal w) : Literal (strip word) :=
  Literal.intercalate (by decide) h

theorem literal_truth : Literal (truth q) := by
  unfold truth
  split
  · decide
  · exact fun _ hc => absurd hc List.not_mem_nil

theorem evalAssign_run (name : String) (h : Literal text) (vars : Vars) :
    evalAssign make name text vars =
      ((), Function.update vars name (text.dropWhile isBlank)) := by
  rw [evalAssign, make.read_literal _ (h.sublist (List.dropWhile_sublist _))]
  rfl

theorem evalAppend_run (name : String) (h : Literal text) (vars : Vars) :
    evalAppend make name text vars = append name (text.dropWhile isBlank) vars := by
  rw [evalAppend, make.read_literal _ (h.sublist (List.dropWhile_sublist _))]
  rfl

/-- What is appended is behind the words that were there. -/
theorem words_append (l r : Text) :
    words (if l = [] then r else l ++ ' ' :: r) = words l ++ words r := by
  split
  · next hnil =>
    rw [hnil]
    rfl
  · exact words_append_blank l r

/-! ## The tests -/

@[simp] theorem strip_truth : strip (truth q) = truth q := by
  unfold truth
  split
  · decide
  · rfl

theorem truth_ne_nil : truth q ≠ [] ↔ q := by
  unfold truth
  split
  · next hq => exact iff_of_true (by decide) hq
  · next hq => exact iff_of_false (by simp) hq

theorem truth_congr {r : Prop} [Decidable r] (h : q ↔ r) : truth q = truth r := by
  unfold truth
  simp only [h]

/-- **`match-word` is equality**, of any two texts. -/
theorem matchWord_eq (w1 w2 : Text) : matchWord w1 w2 = truth (w1 = w2) := by
  have hor : orText (subst w1 [] w2) (subst w2 [] w1) ≠ [] ↔ w1 ≠ w2 := by
    refine Iff.trans ?_ (not_congr eq_iff_subst_eq_nil)
    unfold orText
    split
    · next hne => exact iff_of_true hne fun h => hne h.1
    · next heq =>
      rw [not_ne_iff] at heq
      simp [heq]
  have hif : ifText (orText (subst w1 [] w2) (subst w2 [] w1)) [] yes = truth (w1 = w2) := by
    unfold ifText truth
    by_cases h : w1 = w2
    · rw [if_neg (fun hne => hor.mp hne h), if_pos h]
    · rw [if_pos (hor.mpr h), if_neg h]
  rw [matchWord, hif, strip_truth]

/-- Between colons, which are no blanks. -/
def enclosed (text : Text) : Text := ':' :: (text ++ [':'])

theorem findstring_enclosed_eq_nil_iff :
    findstring (enclosed word) text = [] ↔ ¬ enclosed word <:+: text :=
  findstring_eq_nil_iff (List.cons_ne_nil _ _)

theorem dropWhile_findstring_enclosed :
    (findstring (enclosed word) text).dropWhile isBlank = findstring (enclosed word) text := by
  unfold findstring
  split
  · rfl
  · rfl

theorem Literal.enclosed (h : Literal text) : Literal (enclosed text) := by
  have hcolon : Literal [':'] := by decide
  exact hcolon.append (h.append hcolon)

theorem Literal.findstring (h : Literal word) : Literal (findstring word text) := by
  unfold Make.findstring
  split
  · exact h
  · exact fun _ hc => absurd hc List.not_mem_nil

/-- The word is found if it is there between colons. -/
theorem findWordInList_yields (make : Reader) (hword : ∀ w ∈ words word, Literal w)
    (hlist : ∀ w ∈ words wlist, Literal w) (vars : Vars) :
    Yields (findWordInList make word wlist) vars
      (if enclosed (strip word) <:+: enclosed ([':'].intercalate (words wlist)) then strip word
        else [])
      ["wl", "w", "m"] := by
  have hwl : Literal (enclosed ([':'].intercalate (words wlist))) :=
    (Literal.intercalate (by decide) hlist).enclosed
  have hw : Literal (enclosed (strip word)) := (Literal.strip hword).enclosed
  have hm : Literal (findstring (enclosed (strip word))
      (enclosed ([':'].intercalate (words wlist)))) := hw.findstring
  have hrun : findWordInList make word wlist vars =
      (strip (ifText (findstring (enclosed (strip word))
          (enclosed ([':'].intercalate (words wlist)))) word []),
        Function.update (Function.update (Function.update vars "wl"
            (enclosed ([':'].intercalate (words wlist))))
          "w" (enclosed (strip word)))
          "m" (findstring (enclosed (strip word))
            (enclosed ([':'].intercalate (words wlist))))) := by
    have hdrop (t : Text) : (enclosed t).dropWhile isBlank = enclosed t := rfl
    simp only [findWordInList, bind_run, pure_run, lookup_run, subst_blank_strip]
    rw [← enclosed, ← enclosed]
    simp only [evalAssign_run _ hwl, evalAssign_run _ hw, hdrop, Function.update_self, ne_eq,
      String.reduceEq, not_false_eq_true, Function.update_of_ne, evalAssign_run _ hm,
      dropWhile_findstring_enclosed]
  constructor
  · rw [hrun]
    show strip (ifText _ word []) = _
    unfold ifText
    by_cases hfound : enclosed (strip word) <:+: enclosed ([':'].intercalate (words wlist))
    · rw [if_pos hfound, if_pos]
      exact fun h => findstring_enclosed_eq_nil_iff.mp h hfound
    · rw [if_neg hfound, if_neg]
      · rfl
      · exact not_not_intro (findstring_enclosed_eq_nil_iff.mpr hfound)
  · intro name hname
    rw [hrun]
    simp only [List.mem_cons, List.not_mem_nil, or_false, not_or] at hname
    simp [hname]

theorem parts_intercalate {ws : List Text} (h : ws ≠ []) :
    parts ([':'].intercalate ws) = ws.flatMap parts := by
  induction ws with
  | nil => exact absurd rfl h
  | cons w ws ih =>
      cases ws with
      | nil => simp [parts]
      | cons w' ws =>
          have ih := ih (List.cons_ne_nil _ _)
          rw [parts] at ih ⊢
          rw [List.intercalate_cons_cons, List.append_assoc, List.singleton_append,
            List.splitOn_append_cons_self, ih, List.flatMap_cons]
          rfl

/-- The empty text has one part, which no other text consists of. -/
theorem eq_nil_of_infix_parts (h : parts text <:+: parts []) : text = [] := by
  rcases (List.infix_singleton_iff _ _).mp h with hnil | hone
  · exact absurd hnil (List.splitOn_ne_nil ':' text)
  · calc text = [':'].intercalate (parts text) := (List.intercalate_splitOn ':').symm
      _ = [] := by
          rw [hone, List.intercalate_singleton]
          rfl

/-- `match-word-in-list` looks for the word between colons. -/
theorem matchWordInList_enclosed (make : Reader) (hword : ∀ w ∈ words word, Literal w)
    (hlist : ∀ w ∈ words wlist, Literal w) (vars : Vars) :
    Yields (matchWordInList make word wlist) vars
      (truth (words word ≠ [] ∧
        enclosed (strip word) <:+: enclosed ([':'].intercalate (words wlist))))
      ["wl", "w", "m"] := by
  by_cases hempty : strip word = []
  · have hno : ¬ (words word ≠ [] ∧
        enclosed (strip word) <:+: enclosed ([':'].intercalate (words wlist))) :=
      fun h => h.1 (strip_eq_nil_iff.mp hempty)
    unfold matchWordInList
    rw [if_neg (not_not_intro hempty), truth, if_neg hno]
    exact ⟨rfl, fun _ _ => rfl⟩
  · obtain ⟨hreturns, hkeeps⟩ := findWordInList_yields make hword hlist vars
    have hrun : matchWordInList make word wlist vars =
        (strip (matchWord (findWordInList make word wlist vars).1 (strip word)),
          (findWordInList make word wlist vars).2) := by
      unfold matchWordInList
      rw [if_pos hempty, bind_run, pure_run]
    have hwords : words word ≠ [] := fun h => hempty (strip_eq_nil_iff.mpr h)
    constructor
    · rw [hrun, hreturns, matchWord_eq, strip_truth]
      apply truth_congr
      rw [and_iff_right hwords]
      split
      · next h => exact iff_of_true rfl h
      · next h => exact iff_of_false (Ne.symm hempty) h
    · intro name hname
      rw [hrun]
      exact hkeeps name hname

theorem enclosed_infix_list (word wlist : Text) :
    (words word ≠ [] ∧ enclosed (strip word) <:+: enclosed ([':'].intercalate (words wlist))) ↔
      words word ≠ [] ∧ parts (strip word) <:+: (words wlist).flatMap parts := by
  apply and_congr_right
  intro hwords
  have hword : strip word ≠ [] := fun h => hwords (strip_eq_nil_iff.mp h)
  rw [enclosed, enclosed, Fields.enclosed_infix_iff, ← parts, ← parts]
  by_cases hlist : words wlist = []
  · -- the list is one empty part, which the word is not
    rw [hlist]
    refine iff_of_false ?_ ?_
    · intro hin
      exact hword (eq_nil_of_infix_parts hin)
    · intro hin
      exact List.splitOn_ne_nil ':' _ (List.infix_nil.mp hin)
  · rw [parts_intercalate hlist]

/-- **`match-word-in-list` looks for the parts of the word** between its colons, one after the other
among the parts of the words on the list. -/
theorem matchWordInList_yields (make : Reader) (hword : ∀ w ∈ words word, Literal w)
    (hlist : ∀ w ∈ words wlist, Literal w) (vars : Vars) :
    Yields (matchWordInList make word wlist) vars
      (truth (words word ≠ [] ∧ parts (strip word) <:+: (words wlist).flatMap parts))
      ["wl", "w", "m"] := by
  rw [← truth_congr (enclosed_infix_list word wlist)]
  exact matchWordInList_enclosed make hword hlist vars

theorem matchWordInList_yields_parts :
    Yields (matchWordInList uncommented "b:c".toList "a:b c".toList) (fun _ => []) yes
      ["wl", "w", "m"] :=
  matchWordInList_yields uncommented (by decide +kernel) (by decide +kernel) _

/-! ## Words without colons -/

/-- A word that `match-word-in-list` looks for as it is. -/
structure Plain (w : Text) : Prop where
  isWord : IsWord w
  no_colon : ':' ∉ w
  literal : Literal w

instance (w : Text) : Decidable (Plain w) :=
  decidable_of_iff (IsWord w ∧ ':' ∉ w ∧ Literal w)
    ⟨fun h => ⟨h.1, h.2.1, h.2.2⟩, fun h => ⟨h.isWord, h.no_colon, h.literal⟩⟩

theorem parts_of_no_colon (h : ':' ∉ word) : parts word = [word] := List.splitOn_eq_singleton h

theorem flatMap_parts {ws : List Text} (h : ∀ w ∈ ws, ':' ∉ w) : ws.flatMap parts = ws := by
  calc ws.flatMap parts = ws.flatMap fun w => [w] :=
        List.flatMap_congr fun w hw => parts_of_no_colon (h w hw)
    _ = ws := List.flatMap_singleton' ws

/-- **Without colons `match-word-in-list` is membership.** -/
theorem matchWordInList_plain (make : Reader) (hword : Plain word)
    (hlist : ∀ w ∈ words wlist, Plain w) (vars : Vars) :
    Yields (matchWordInList make word wlist) vars (truth (word ∈ words wlist))
      ["wl", "w", "m"] := by
  have hwords : words word = [word] := words_of_isWord hword.isWord
  have hmem : words word ≠ [] ∧ parts (strip word) <:+: (words wlist).flatMap parts ↔
      word ∈ words wlist := by
    rw [hwords, strip_of_isWord hword.isWord, parts_of_no_colon hword.no_colon,
      flatMap_parts fun w hw => (hlist w hw).no_colon, List.singleton_infix_iff]
    exact and_iff_right (List.cons_ne_nil _ _)
  rw [← truth_congr ((enclosed_infix_list word wlist).trans hmem)]
  apply matchWordInList_enclosed make ?_ fun w hw => (hlist w hw).literal
  rw [hwords]
  exact List.forall_mem_singleton.mpr hword.literal

theorem ifText_truth : ifText (truth q) yes [] = truth q := by
  unfold ifText
  by_cases hq : q
  · rw [if_pos (truth_ne_nil.mpr hq), truth, if_pos hq]
  · rw [if_neg (fun h => hq (truth_ne_nil.mp h)), truth, if_neg hq]

/-- **`match-prefix` finds the word itself, and any word that goes on behind it with the
delimiter.** -/
theorem matchPrefix_yields (make : Reader) (hp : Plain p) (hpercent : '%' ∉ p)
    (hdelim : Plain delim) (hdelim_percent : '%' ∉ delim) (hlist : ∀ w ∈ words wlist, Plain w)
    (vars : Vars) :
    Yields (matchPrefix make p delim wlist) vars
      (truth (∃ w ∈ words wlist, w = p ∨ p ++ delim <+: w)) ["wl", "w", "m", "text"] := by
  have hword : IsWord (p ++ delim) := isWord_append hp.isWord hdelim.isWord
  have hstrip : strip (p ++ strip delim) = p ++ delim := by
    rw [strip_of_isWord hdelim.isWord, strip_of_isWord hword]
  have hw : Literal (p ++ delim) := hp.literal.append hdelim.literal
  have hbefore : '%' ∉ p ++ delim := by simp [hpercent, hdelim_percent]
  have hplain (w : Text) (hw : w ∈ words wlist) : Plain (if p ++ delim <+: w then p else w) := by
    split
    · exact hp
    · exact hlist w hw
  have htext : Literal (patsubst (p ++ delim ++ ['%']) p wlist) := by
    rw [patsubst_eq_unwords hbefore hpercent hp.isWord]
    apply Literal.intercalate (by decide)
    intro w hw
    obtain ⟨w', hw', rfl⟩ := List.mem_map.mp hw
    exact (hplain w' hw').literal
  -- the variables when the word is looked for, and the words it is looked for in
  obtain ⟨vars₁, hvars₁⟩ : ∃ vars₁ : Vars, vars₁ =
      Function.update (Function.update vars "w" (p ++ delim)) "text"
        ((patsubst (p ++ delim ++ ['%']) p wlist).dropWhile isBlank) := ⟨_, rfl⟩
  have hwords : words (vars₁ "text") =
      (words wlist).map fun w => if p ++ delim <+: w then p else w := by
    rw [hvars₁, Function.update_self, words_dropWhile_blank]
    exact words_patsubst_prefix hbefore hpercent hp.isWord wlist
  have hplain₁ : ∀ w ∈ words (vars₁ "text"), Plain w := by
    intro w hw
    rw [hwords] at hw
    obtain ⟨w', hw', rfl⟩ := List.mem_map.mp hw
    exact hplain w' hw'
  have hmem : p ∈ words (vars₁ "text") ↔ ∃ w ∈ words wlist, w = p ∨ p ++ delim <+: w := by
    rw [hwords, List.mem_map]
    refine exists_congr fun w => and_congr_right fun _ => ?_
    split
    · next hprefix => exact iff_of_true rfl (.inr hprefix)
    · next hprefix => exact (or_iff_left hprefix).symm
  have hrun : matchPrefix make p delim wlist vars =
      (strip (ifText (matchWordInList make p (vars₁ "text") vars₁).1 yes []),
        (matchWordInList make p (vars₁ "text") vars₁).2) := by
    simp only [matchPrefix, bind_run, pure_run, lookup_run, hstrip, evalAssign_run _ hw,
      Function.update_self, dropWhile_blank_of_isWord hword, evalAssign_run _ htext, hvars₁]
  obtain ⟨hreturns, hkeeps⟩ := matchWordInList_plain make hp hplain₁ vars₁
  constructor
  · rw [hrun, hreturns, ifText_truth, strip_truth, truth_congr hmem]
  · intro name hname
    rw [hrun]
    simp only [List.mem_cons, List.not_mem_nil, or_false, not_or] at hname
    rw [hkeeps name (by simp [hname])]
    simp [hvars₁, hname]

end VendorRs.Build
