import Mathlib.Tactic.Common
import Mathlib.Data.List.Basic

/-!
# Tokens, the way `strtok` cuts them

`strtok` skips delimiters, takes what comes up to the next one, and goes on behind it; calling it
until it finds nothing more gives the tokens of a text. Two delimiters in a row are one cut, so
there is no empty token.

The alphabet and the delimiters are arbitrary. `tokens` is the whole loop, by structural recursion
so that it computes; `tokens_eq_strtok` ties it to the single calls. The result about it is that
fields without delimiters, joined by one, come back as they were, but for the empty ones
(`tokens_intercalate`).
-/

namespace Tokens

variable {α : Type} (delim : α → Bool)

/-- One call: the next token and what is left behind the delimiter that ended it. -/
def strtok (l : List α) : Option (List α × List α) :=
  match l.dropWhile delim with
  | [] => none
  | a :: rest => some (a :: rest.takeWhile (! delim ·), (rest.dropWhile (! delim ·)).drop 1)

/-- The tokens of `l`, when `cur` is what has been read of the first one. -/
def tokensFrom (cur : List α) : List α → List (List α)
  | [] => if cur.isEmpty then [] else [cur]
  | a :: l =>
      if delim a then
        if cur.isEmpty then tokensFrom [] l else cur :: tokensFrom [] l
      else tokensFrom (cur ++ [a]) l

/-- What calling `strtok` until it returns nothing collects. -/
def tokens (l : List α) : List (List α) := tokensFrom delim [] l

variable {delim} {l cur f rest : List α} {sep : α}

/-! ## One call and the loop -/

/-- A token that has begun is read to the next delimiter. -/
theorem tokensFrom_of_ne_nil (hcur : cur ≠ []) :
    tokensFrom delim cur l =
      (cur ++ l.takeWhile (! delim ·)) :: tokens delim ((l.dropWhile (! delim ·)).drop 1) := by
  -- on the text, for every beginning of the token
  induction l generalizing cur with
  | nil => simp [tokensFrom, tokens, hcur]
  | cons a l ih =>
      by_cases ha : delim a
      · simp [tokensFrom, tokens, ha, hcur]
      · simp only [tokensFrom, ha, Bool.false_eq_true, if_false]
        rw [ih (by simp)]
        simp [ha]

theorem tokens_eq_strtok :
    tokens delim l = match strtok delim l with
      | none => []
      | some (token, rest) => token :: tokens delim rest := by
  induction l with
  | nil => rfl
  | cons a l ih =>
      by_cases ha : delim a
      · have htail : tokens delim (a :: l) = tokens delim l := by simp [tokens, tokensFrom, ha]
        rw [htail, ih, strtok, strtok, List.dropWhile_cons_of_pos ha]
      · rw [strtok, List.dropWhile_cons_of_neg ha]
        simp only [tokens, tokensFrom, ha, Bool.false_eq_true, if_false, List.nil_append]
        rw [tokensFrom_of_ne_nil (by simp)]
        rfl

/-! ## Tokens and fields -/

/-- The cuts between groups of fields are cuts between the fields. -/
theorem intercalate_append {sep : List α} {xs ys : List (List α)} (hxs : xs ≠ [])
    (hys : ys ≠ []) :
    sep.intercalate (xs ++ ys) = sep.intercalate xs ++ sep ++ sep.intercalate ys := by
  induction xs with
  | nil => exact absurd rfl hxs
  | cons x xs ih =>
      cases xs with
      | nil =>
          rw [List.singleton_append, List.intercalate_cons_of_ne_nil hys,
            List.intercalate_singleton]
      | cons x' xs =>
          rw [List.cons_append, List.intercalate_cons_of_ne_nil (by simp), ih (by simp),
            List.intercalate_cons_cons]
          simp only [List.append_assoc]

/-- A field followed by a delimiter, or by nothing, is what one call returns. -/
theorem strtok_append (hf : f ≠ []) (hfree : ∀ a ∈ f, delim a = false)
    (hrest : ∀ a ∈ rest.head?, delim a = true) :
    strtok delim (f ++ rest) = some (f, rest.drop 1) := by
  obtain ⟨a, f, rfl⟩ := List.exists_cons_of_ne_nil hf
  have ha : ¬ delim a = true := by simp [hfree a List.mem_cons_self]
  have hfree' : ∀ b ∈ f, (! delim b) = true := by
    intro b hb
    rw [hfree b (List.mem_cons_of_mem a hb)]
    rfl
  rw [strtok, List.cons_append, List.dropWhile_cons_of_neg ha]
  simp only [List.takeWhile_append_of_pos hfree', List.dropWhile_append_of_pos hfree']
  cases rest with
  | nil => simp
  | cons b rest =>
      have hb : ¬ (! delim b) = true := by simp [hrest b rfl]
      rw [List.takeWhile_cons_of_neg (p := (! delim ·)) hb,
        List.dropWhile_cons_of_neg (p := (! delim ·)) hb, List.append_nil]

/-- A field that begins a text and is followed by a delimiter is the first token. -/
theorem tokens_field (hf : f ≠ []) (hfree : ∀ a ∈ f, delim a = false) (hsep : delim sep = true) :
    tokens delim (f ++ sep :: rest) = f :: tokens delim rest := by
  rw [tokens_eq_strtok, strtok_append hf hfree (by simpa using hsep)]
  rfl

/-- A field that is the whole text is its only token. -/
theorem tokens_last (hf : f ≠ []) (hfree : ∀ a ∈ f, delim a = false) : tokens delim f = [f] := by
  have hcall : strtok delim (f ++ []) = some (f, []) := strtok_append hf hfree (by simp)
  rw [List.append_nil] at hcall
  rw [tokens_eq_strtok, hcall]
  rfl

/-- Delimiters in front are skipped. -/
theorem tokens_skip (hsep : delim sep = true) : tokens delim (sep :: l) = tokens delim l := by
  simp [tokens, tokensFrom, hsep]

/-- A delimiter cuts a text into two, each with its own tokens. -/
theorem tokens_append_cons (hsep : delim sep = true) (l r : List α) :
    tokens delim (l ++ sep :: r) = tokens delim l ++ tokens delim r := by
  suffices h : ∀ cur, tokensFrom delim cur (l ++ sep :: r) =
      tokensFrom delim cur l ++ tokensFrom delim [] r by
    exact h []
  induction l with
  | nil =>
      intro cur
      simp only [List.nil_append, tokensFrom, hsep, if_true]
      split <;> rfl
  | cons a l ih =>
      intro cur
      simp only [List.cons_append, tokensFrom]
      split
      · split
        · exact ih []
        · rw [ih, List.cons_append]
      · exact ih (cur ++ [a])

/-- A token has no delimiter in it, and is not empty. -/
theorem of_mem_tokens (h : f ∈ tokens delim l) : f ≠ [] ∧ ∀ a ∈ f, delim a = false := by
  suffices hfrom : ∀ cur, (∀ a ∈ cur, delim a = false) →
      ∀ f ∈ tokensFrom delim cur l, f ≠ [] ∧ ∀ a ∈ f, delim a = false by
    exact hfrom [] (by simp) f h
  clear h
  induction l with
  | nil =>
      intro cur hcur f hf
      rw [tokensFrom] at hf
      split at hf
      · cases hf
      · next hne =>
        rw [List.mem_singleton] at hf
        exact ⟨by simpa [hf] using hne, hf ▸ hcur⟩
  | cons a l ih =>
      intro cur hcur f hf
      rw [tokensFrom] at hf
      split at hf
      · split at hf
        · exact ih [] (by simp) f hf
        · next hne =>
          rcases List.mem_cons.mp hf with rfl | hf
          · exact ⟨by simpa using hne, hcur⟩
          · exact ih [] (by simp) f hf
      · next ha =>
        apply ih (cur ++ [a]) ?_ f hf
        intro b hb
        rcases List.mem_append.mp hb with hb | hb
        · exact hcur b hb
        · rw [List.mem_singleton.mp hb]
          simpa using ha

/-- **Fields without delimiters, joined by one, come back as they were, but for the empty ones.** -/
theorem tokens_intercalate {fields : List (List α)} (hsep : delim sep = true)
    (hfields : ∀ f ∈ fields, ∀ a ∈ f, delim a = false) :
    tokens delim ([sep].intercalate fields) = fields.filter (! ·.isEmpty) := by
  induction fields with
  | nil => rfl
  | cons f fields ih =>
      have hfree := hfields f List.mem_cons_self
      have hrest : tokens delim ([sep].intercalate fields) = fields.filter (! ·.isEmpty) := by
        apply ih
        intro g hg
        exact hfields g (List.mem_cons_of_mem f hg)
      by_cases hf : f = []
      · -- an empty field leaves a delimiter in front, which is skipped
        subst hf
        cases fields with
        | nil => rfl
        | cons g fields =>
            rw [List.intercalate_cons_cons, List.nil_append, List.singleton_append,
              tokens_skip hsep, hrest]
            rfl
      · have hkeep : (! f.isEmpty) = true := by simp [hf]
        rw [List.filter_cons_of_pos (p := fun f : List α => ! f.isEmpty) hkeep]
        cases fields with
        | nil => simpa using tokens_last hf hfree
        | cons g fields =>
            rw [List.intercalate_cons_cons, List.append_assoc, List.singleton_append,
              tokens_field hf hfree hsep, hrest]

end Tokens
