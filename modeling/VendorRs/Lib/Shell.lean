import VendorRs.Lib.Fields

/-!
# The words of a shell command

A shell cuts a line into words at its blanks. Single quotes keep everything up to the next one,
a backslash keeps the character behind it, and `&&` joins commands. `tokens` reads that much of the
language; a line with anything else outside of quotes (double quotes, expansions, the other
operators) it does not read at all.

`quote` is the usual way to hand a text to a shell: quoted, each quote in it closed, escaped and
opened again. Whatever the text is, it is read back as one word (`reads_quote`), so a line put
together from quoted texts and harmless words has the words it was meant to have (`tokens_line`).
-/

namespace Shell

abbrev Text := List Char

inductive Token where
  | word (w : Text)
  | andIf
  deriving DecidableEq, Repr

/-- What has been read of the word that is being read. -/
inductive Mode where
  | between
  | word (w : Text)
  | quoted (w : Text)
  | escaped (w : Text)
  /-- After one `&`. -/
  | ampersand
  deriving DecidableEq, Repr

/-- A character that stands for itself, quoted or not. -/
def plain (c : Char) : Bool := c.isAlphanum || c ∈ ['_', '-', '.', '/', ',', ':', '+', '@']

/-- A character outside of quotes, where `done` is complete if the word ends here. -/
def outside (done : List Token) (w : Text) (c : Char) : Option (List Token × Mode) :=
  if c = ' ' ∨ c = '\t' then some (done, .between)
  else if c = '&' then some (done, .ampersand)
  else if c = '\'' then some ([], .quoted w)
  else if c = '\\' then some ([], .escaped w)
  else if plain c then some ([], .word (w ++ [c]))
  else none

/-- The tokens that a character completes, and where it leads. -/
def step (m : Mode) (c : Char) : Option (List Token × Mode) :=
  match m with
  | .between => outside [] [] c
  | .word w => outside [.word w] w c
  | .quoted w => if c = '\'' then some ([], .word w) else some ([], .quoted (w ++ [c]))
  -- a line that is continued is not read
  | .escaped w => if c = '\n' then none else some ([], .word (w ++ [c]))
  | .ampersand => if c = '&' then some ([.andIf], .between) else none

def finish : Mode → Option (List Token)
  | .between => some []
  | .word w => some [.word w]
  | .quoted _ | .escaped _ | .ampersand => none

def read : Mode → Text → Option (List Token)
  | m, [] => finish m
  | m, c :: l =>
      match step m c with
      | none => none
      | some (done, m') => (read m' l).map (done ++ ·)

/-- The tokens of a line. -/
def tokens (line : Text) : Option (List Token) := read .between line

/-- The text as one word of a line. -/
def quote (text : Text) : Text :=
  ['\''] ++ Fields.replace ['\''] ['\'', '\\', '\'', '\''] text ++ ['\'']

variable {l rest text : Text} {m : Mode} {w v field : Text} {c : Char}

/-! ## Fields -/

theorem read_cons {done : List Token} {m' : Mode} (h : step m c = some (done, m')) :
    read m (c :: l) = (read m' l).map (done ++ ·) := by
  rw [read, h]

/-- A character that completes nothing. -/
theorem read_cons_nil {m' : Mode} (h : step m c = some ([], m')) :
    read m (c :: l) = read m' l := by
  rw [read_cons h]
  cases read m' l <;> rfl

/-- The word in which the next character would stand. -/
def Mode.begun : Mode → Option Text
  | .between => some []
  | .word w => some w
  | .quoted _ | .escaped _ | .ampersand => none

/-- What is written as `field` is read as `w`, at the beginning of a word and within one. -/
def Reads (field w : Text) : Prop :=
  ∀ m v rest, m.begun = some v → read m (field ++ rest) = read (.word (v ++ w)) rest

theorem step_outside (h : m.begun = some v) (hc : c ≠ ' ' ∧ c ≠ '\t' ∧ c ≠ '&') :
    step m c = outside [] v c := by
  obtain ⟨hblank, htab, hand⟩ := hc
  cases m with
  | between =>
      cases h
      rfl
  | word w =>
      cases h
      simp [step, outside, hblank, htab, hand]
  | quoted w => cases h
  | escaped w => cases h
  | ampersand => cases h

theorem of_plain (h : plain c = true) :
    c ≠ ' ' ∧ c ≠ '\t' ∧ c ≠ '&' ∧ c ≠ '\'' ∧ c ≠ '\\' := by
  refine ⟨?_, ?_, ?_, ?_, ?_⟩ <;>
    · rintro rfl
      revert h
      decide

theorem reads_char (h : plain c = true) : Reads [c] [c] := by
  intro m v rest hm
  obtain ⟨hblank, htab, hand, hquote, hescape⟩ := of_plain h
  apply read_cons_nil
  rw [step_outside hm ⟨hblank, htab, hand⟩]
  simp [outside, hblank, htab, hand, hquote, hescape, h]

theorem Reads.append {field' w' : Text} (h : Reads field w) (h' : Reads field' w') :
    Reads (field ++ field') (w ++ w') := by
  intro m v rest hm
  rw [List.append_assoc, h m v _ hm, h' _ (v ++ w) rest rfl, List.append_assoc]

/-- A word of harmless characters is read as it is. -/
theorem reads_plain (hne : w ≠ []) (h : ∀ c ∈ w, plain c = true) : Reads w w := by
  induction w with
  | nil => exact absurd rfl hne
  | cons c w ih =>
      obtain ⟨hc, hw⟩ := List.forall_mem_cons.mp h
      cases w with
      | nil => exact reads_char hc
      | cons c' w => exact (reads_char hc).append (ih (by simp) hw)

theorem read_quoted (text : Text) :
    read (.quoted w) (Fields.replace ['\''] ['\'', '\\', '\'', '\''] text ++ '\'' :: rest) =
      read (.word (w ++ text)) rest := by
  induction text generalizing w with
  | nil =>
      rw [List.append_nil]
      exact read_cons_nil rfl
  | cons c text ih =>
      by_cases hc : c = '\''
      · -- closed, escaped, opened again
        subst hc
        rw [Fields.replace_cons_self]
        calc read (.quoted w) _
            = read (.word w) _ := read_cons_nil rfl
          _ = read (.escaped w) _ := read_cons_nil rfl
          _ = read (.word (w ++ ['\''])) _ := read_cons_nil rfl
          _ = read (.quoted (w ++ ['\''])) _ := read_cons_nil rfl
          _ = read (.word (w ++ ['\''] ++ text)) rest := ih
          _ = read (.word (w ++ '\'' :: text)) rest := by rw [List.append_assoc]; rfl
      · have hkeep : step (.quoted w) c = some ([], .quoted (w ++ [c])) := if_neg hc
        rw [Fields.replace_cons_of_ne hc, List.cons_append, read_cons_nil hkeep, ih,
          List.append_assoc]
        rfl

/-- **A quoted text is one word**, and that word is the text. -/
theorem reads_quote (text : Text) : Reads (quote text) text := by
  intro m v rest hm
  have hopen : step m '\'' = some ([], .quoted v) := by
    rw [step_outside hm (by decide)]
    rfl
  rw [quote, List.append_assoc, List.append_assoc, List.singleton_append, List.singleton_append,
    read_cons_nil hopen]
  exact read_quoted text

/-! ## Lines -/

/-- A way to write a token. -/
inductive Renders : Text → Token → Prop where
  | word {field w : Text} (h : Reads field w) : Renders field (.word w)
  | andIf : Renders ['&', '&'] .andIf

variable {t : Token}

theorem Renders.read (h : Renders field t) : read .between field = some [t] := by
  cases h with
  | word hreads =>
      have hread := hreads .between [] [] rfl
      rwa [List.append_nil] at hread
  | andIf => rfl

theorem Renders.read_blank (h : Renders field t) (rest : Text) :
    Shell.read .between (field ++ ' ' :: rest) = (tokens rest).map (t :: ·) := by
  cases h with
  | @word _ w hreads =>
      have hblank : step (.word ([] ++ w)) ' ' = some ([.word w], .between) := rfl
      rw [hreads .between [] _ rfl]
      exact read_cons hblank
  | andIf =>
      calc Shell.read .between ('&' :: '&' :: ' ' :: rest)
          = Shell.read .ampersand ('&' :: ' ' :: rest) := read_cons_nil rfl
        _ = (Shell.read .between (' ' :: rest)).map ([.andIf] ++ ·) := read_cons rfl
        _ = (tokens rest).map (.andIf :: ·) := by
            rw [read_cons_nil rfl]
            rfl

/-- **A line of fields with a blank between them** has the tokens they were written for. -/
theorem tokens_line {fields : List Text} {ts : List Token} (h : List.Forall₂ Renders fields ts) :
    tokens ([' '].intercalate fields) = some ts := by
  induction h with
  | nil => rfl
  | @cons field t fields ts hfield hrest ih =>
      cases hrest with
      | nil =>
          rw [List.intercalate_singleton]
          exact hfield.read
      | cons hnext hrest =>
          rw [List.intercalate_cons_cons, List.append_assoc, List.singleton_append, tokens,
            hfield.read_blank, ih]
          rfl

/-! ## Commands -/

/-- The words between the `&&`. -/
def commands : List Token → List (List Text)
  | [] => [[]]
  | .word w :: ts =>
      match commands ts with
      | [] => [[w]]
      | ws :: rest => (w :: ws) :: rest
  | .andIf :: ts => [] :: commands ts

/-- The commands of a line, each with a word at least. -/
def andList (line : Text) : Option (List (List Text)) :=
  match tokens line with
  | none => none
  | some ts => if ∀ ws ∈ commands ts, ws ≠ [] then some (commands ts) else none

/-- One command after the other, up to the first that fails. -/
def runAll {σ : Type} (exec : List Text → σ → σ × Bool) : List (List Text) → σ → σ × Bool
  | [], s => (s, true)
  | ws :: rest, s =>
      match exec ws s with
      | (s', true) => runAll exec rest s'
      | (s', false) => (s', false)

theorem commands_words (ws : List Text) (ts : List Token) :
    commands (ws.map .word ++ .andIf :: ts) = ws :: commands ts := by
  induction ws with
  | nil => rfl
  | cons w ws ih => rw [List.map_cons, List.cons_append, commands, ih]

theorem commands_last (ws : List Text) : commands (ws.map .word) = [ws] := by
  induction ws with
  | nil => rfl
  | cons w ws ih => rw [List.map_cons, commands, ih]

theorem renders_words {fields ws : List Text} (h : List.Forall₂ Reads fields ws) :
    List.Forall₂ Renders fields (ws.map .word) := by
  induction h with
  | nil => exact .nil
  | cons hfield _ ih => exact .cons (.word hfield) ih

theorem renders_append {fields fields' : List Text} {ts ts' : List Token}
    (h : List.Forall₂ Renders fields ts) (h' : List.Forall₂ Renders fields' ts') :
    List.Forall₂ Renders (fields ++ fields') (ts ++ ts') := by
  induction h with
  | nil => exact h'
  | cons hfield _ ih => exact .cons hfield ih

/-- **Two commands on a line** are the words of the one and the words of the other. -/
theorem andList_and {fields fields' ws ws' : List Text} (h : List.Forall₂ Reads fields ws)
    (h' : List.Forall₂ Reads fields' ws') (hne : ws ≠ []) (hne' : ws' ≠ []) :
    andList ([' '].intercalate (fields ++ ['&', '&'] :: fields')) = some [ws, ws'] := by
  have hline := tokens_line (renders_append (renders_words h) (.cons .andIf (renders_words h')))
  have hcommands : commands (ws.map .word ++ .andIf :: ws'.map .word) = [ws, ws'] := by
    rw [commands_words, commands_last]
  unfold andList
  rw [hline]
  dsimp only
  rw [hcommands, if_pos (by simp [hne, hne'])]

end Shell
