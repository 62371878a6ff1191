import Mathlib.Tactic.Common
import Mathlib.Data.List.Basic

/-!
# Texts with variables

In a template `$(name)` stands for a value and `$$` for a dollar. An `Expander` is a function that
puts the values in, from the left, up to the first name without one; what it does with a text of
any other form is left open. `standard` is one.

A template may be expanded twice, by a first pass that knows some of the names and restores the
others. Then a dollar has to be written four times, and a value that the first pass puts in is a
template for the second (`Expander.expand_pass`).
-/

namespace Template

abbrev Text := List Char

/-- White space, as Unicode has it. -/
def isSpace (c : Char) : Bool :=
  c.toNat ∈ [0x09, 0x0a, 0x0b, 0x0c, 0x0d, 0x20, 0x85, 0xa0, 0x1680, 0x2028, 0x2029, 0x202f, 0x205f,
    0x3000] || (0x2000 ≤ c.toNat && c.toNat ≤ 0x200a)

/-- The text without the white space at its ends. -/
def trim (text : Text) : Text :=
  ((text.dropWhile isSpace).reverse.dropWhile isSpace).reverse

inductive Part where
  | lit (text : Text)
  | dollar
  | var (name : Text)
  deriving DecidableEq, Repr

def Part.render : Part → Text
  | .lit text => text
  | .dollar => ['$', '$']
  | .var name => '$' :: '(' :: (name ++ [')'])

def render (ps : List Part) : Text := ps.flatMap Part.render

/-- A part that reads back as itself. -/
def Part.Ok : Part → Prop
  | .lit text => '$' ∉ text
  | .dollar => True
  | .var name => ')' ∉ name ∧ trim name = name

instance : DecidablePred Part.Ok
  | .lit text => inferInstanceAs (Decidable ('$' ∉ text))
  | .dollar => inferInstanceAs (Decidable True)
  | .var name => inferInstanceAs (Decidable (')' ∉ name ∧ trim name = name))

section Expanding

variable {ε : Type}

/-- The value of a template. -/
def eval (f : Text → Except ε Text) : List Part → Except ε Text
  | [] => .ok []
  | .lit text :: ps => (eval f ps).map (text ++ ·)
  | .dollar :: ps => (eval f ps).map ('$' :: ·)
  | .var name :: ps =>
      match f name with
      | .error e => .error e
      | .ok value => (eval f ps).map (value ++ ·)

/-- What is known of a function that expands templates. -/
structure Expander (ε : Type) where
  expand : (Text → Except ε Text) → Text → Except ε Text
  expand_render : ∀ f ps, (∀ p ∈ ps, Part.Ok p) → expand f (render ps) = eval f ps

/-! ## One that reads the text once -/

inductive Mode where
  | text
  /-- Behind a dollar. -/
  | dollar
  /-- Within the parentheses. -/
  | name (n : Text)

def expandFrom (malformed : ε) (f : Text → Except ε Text) : Mode → Text → Except ε Text
  | .text, [] => .ok []
  | .text, c :: l =>
      if c = '$' then expandFrom malformed f .dollar l
      else (expandFrom malformed f .text l).map (c :: ·)
  | .dollar, c :: l =>
      if c = '(' then expandFrom malformed f (.name []) l
      else if c = '$' then (expandFrom malformed f .text l).map ('$' :: ·)
      else .error malformed
  | .name n, c :: l =>
      if c = ')' then
        match f (trim n) with
        | .error e => .error e
        | .ok value => (expandFrom malformed f .text l).map (value ++ ·)
      else expandFrom malformed f (.name (n ++ [c])) l
  | .dollar, [] | .name _, [] => .error malformed

variable {malformed : ε} {f : Text → Except ε Text} {text name rest : Text} {ps : List Part}

@[simp] theorem map_map (x : Except ε Text) (g h : Text → Text) :
    (x.map h).map g = x.map fun t => g (h t) := by
  cases x <;> rfl

theorem expandFrom_lit (h : '$' ∉ text) :
    expandFrom malformed f .text (text ++ rest) =
      (expandFrom malformed f .text rest).map (text ++ ·) := by
  induction text with
  | nil => cases h : expandFrom malformed f .text rest <;> simp [h, Except.map]
  | cons c text ih =>
      obtain ⟨hc, htext⟩ : '$' ≠ c ∧ '$' ∉ text := by simpa using h
      rw [List.cons_append, expandFrom, if_neg (Ne.symm hc), ih htext, map_map]
      rfl

theorem expandFrom_name {n : Text} (h : ')' ∉ name) :
    expandFrom malformed f (.name n) (name ++ ')' :: rest) =
      match f (trim (n ++ name)) with
      | .error e => .error e
      | .ok value => (expandFrom malformed f .text rest).map (value ++ ·) := by
  induction name generalizing n with
  | nil => rw [List.nil_append, expandFrom, if_pos rfl, List.append_nil]
  | cons c name ih =>
      obtain ⟨hc, hname⟩ : ')' ≠ c ∧ ')' ∉ name := by simpa using h
      rw [List.cons_append, expandFrom, if_neg (Ne.symm hc), ih hname, List.append_assoc]
      rfl

theorem expandFrom_render (h : ∀ p ∈ ps, Part.Ok p) :
    expandFrom malformed f .text (render ps) = eval f ps := by
  induction ps with
  | nil => rfl
  | cons p ps ih =>
      obtain ⟨hp, hps⟩ := List.forall_mem_cons.mp h
      rw [render, List.flatMap_cons, ← render]
      cases p with
      | lit text => rw [Part.render, expandFrom_lit hp, ih hps, eval]
      | dollar =>
          rw [eval, ← ih hps]
          rfl
      | var name =>
          obtain ⟨hclose, htrim⟩ := hp
          have hopen : (Part.var name).render ++ render ps =
              '$' :: '(' :: (name ++ ')' :: render ps) := by
            simp [Part.render]
          rw [hopen, expandFrom, if_pos rfl, expandFrom, if_pos rfl, expandFrom_name hclose,
            List.nil_append, htrim, ih hps, eval]

/-- An expander that gives up with `malformed` on a text of any other form. -/
def standard (malformed : ε) : Expander ε where
  expand f text := expandFrom malformed f .text text
  expand_render _ _ h := expandFrom_render h

end Expanding

/-! ## Two passes -/

variable {ε : Type} {ps : List Part}

/-- How to write a part that is to be read after a first pass. -/
def Part.twice : Part → List Part
  | .lit text => [.lit text]
  | .dollar => [.dollar, .dollar]
  | .var name => [.var name]

/-- The names that the first pass knows, with the templates they stand for. -/
def Part.fill (own : Text → Option (List Part)) : Part → List Part
  | .lit text => [.lit text]
  | .dollar => [.dollar]
  | .var name => (own name).getD [.var name]

/-- A first pass: what it does not know it restores. -/
def passValue (own : Text → Option (List Part)) (name : Text) : Except ε Text :=
  .ok (render ((Part.var name).fill own))

variable {own : Text → Option (List Part)}

theorem ok_twice (h : ∀ p ∈ ps, Part.Ok p) : ∀ p ∈ ps.flatMap Part.twice, Part.Ok p := by
  intro p hp
  obtain ⟨q, hq, hmem⟩ := List.mem_flatMap.mp hp
  have hok := h q hq
  cases q with
  | lit text =>
      rw [List.mem_singleton.mp hmem]
      exact hok
  | dollar =>
      have hdollar : p = .dollar := by simpa [Part.twice] using hmem
      rw [hdollar]
      trivial
  | var name =>
      rw [List.mem_singleton.mp hmem]
      exact hok

theorem ok_fill (h : ∀ p ∈ ps, Part.Ok p) (hown : ∀ n qs, own n = some qs → ∀ p ∈ qs, Part.Ok p) :
    ∀ p ∈ ps.flatMap (Part.fill own), Part.Ok p := by
  intro p hp
  obtain ⟨q, hq, hmem⟩ := List.mem_flatMap.mp hp
  have hok := h q hq
  cases q with
  | lit text =>
      rw [List.mem_singleton.mp hmem]
      exact hok
  | dollar =>
      rw [List.mem_singleton.mp hmem]
      trivial
  | var name =>
      rw [Part.fill] at hmem
      cases hname : own name with
      | none =>
          rw [hname] at hmem
          rw [List.mem_singleton.mp hmem]
          exact hok
      | some qs =>
          rw [hname] at hmem
          exact hown name qs hname p hmem

theorem eval_append {f : Text → Except ε Text} {text : Text} {qs : List Part}
    (h : eval f ps = .ok text) : eval f (ps ++ qs) = (eval f qs).map (text ++ ·) := by
  have hmap (a : Text) (x : Except ε Text) {b : Text} (hx : x.map (a ++ ·) = .ok b) :
      ∃ c, x = .ok c ∧ b = a ++ c := by
    cases x with
    | error e => cases hx
    | ok c =>
        cases hx
        exact ⟨c, rfl, rfl⟩
  induction ps generalizing text with
  | nil =>
      cases h
      cases hqs : eval f qs <;> simp [hqs, Except.map]
  | cons p ps ih =>
      rw [List.cons_append]
      cases p with
      | lit a =>
          obtain ⟨c, hc, rfl⟩ := hmap a _ h
          rw [eval, ih hc, map_map]
          simp only [List.append_assoc]
      | dollar =>
          obtain ⟨c, hc, rfl⟩ := hmap ['$'] _ h
          rw [eval, ih hc, map_map]
          rfl
      | var name =>
          rw [eval] at h ⊢
          cases hname : f name with
          | error e =>
              rw [hname] at h
              cases h
          | ok a =>
              rw [hname] at h
              obtain ⟨c, hc, rfl⟩ := hmap a _ h
              dsimp only
              rw [ih hc, map_map]
              simp only [List.append_assoc]

theorem eval_pass (own : Text → Option (List Part)) (ps : List Part) :
    eval (passValue (ε := ε) own) (ps.flatMap Part.twice) =
      .ok (render (ps.flatMap (Part.fill own))) := by
  induction ps with
  | nil => rfl
  | cons p ps ih =>
      rw [List.flatMap_cons, List.flatMap_cons]
      cases p with
      | lit text =>
          rw [Part.twice, List.singleton_append, eval, ih]
          simp [Except.map, Part.fill, render, Part.render]
      | dollar =>
          rw [Part.twice, List.cons_append, eval, List.singleton_append, eval, ih]
          simp [Except.map, Part.fill, render, Part.render]
      | var name =>
          rw [Part.twice, List.singleton_append, eval, passValue, ih]
          simp [Except.map, render]

/-- **The first of two passes** leaves the template that the second one expands: a dollar that was
written four times is written twice, and the names it knows are replaced by their templates. -/
theorem Expander.expand_pass (E : Expander ε) (h : ∀ p ∈ ps, Part.Ok p) :
    E.expand (passValue own) (render (ps.flatMap Part.twice)) =
      .ok (render (ps.flatMap (Part.fill own))) := by
  rw [E.expand_render _ _ (ok_twice h), eval_pass]

/-! ## One name apart -/

/-- What is put in front of the first field. -/
def prepend (text : Text) : List Text → List Text
  | [] => [text]
  | field :: fields => (text ++ field) :: fields

/-- What lies between the occurrences of one name. -/
def fields (f : Text → Except ε Text) (mark : Text) : List Part → Except ε (List Text)
  | [] => .ok [[]]
  | .lit text :: ps => (fields f mark ps).map (prepend text)
  | .dollar :: ps => (fields f mark ps).map (prepend ['$'])
  | .var name :: ps =>
      if name = mark then (fields f mark ps).map ([] :: ·)
      else
        match f name with
        | .error e => .error e
        | .ok value => (fields f mark ps).map (prepend value)

variable {f : Text → Except ε Text} {mark text : Text}

theorem fields_ne_nil {fs : List Text} (h : fields f mark ps = .ok fs) : fs ≠ [] := by
  have hprepend (text : Text) (gs : List Text) : prepend text gs ≠ [] := by
    cases gs <;> exact List.cons_ne_nil _ _
  have hmap {x : Except ε (List Text)} {g : List Text → List Text} (hg : ∀ gs, g gs ≠ [])
      (hx : x.map g = .ok fs) : fs ≠ [] := by
    cases x with
    | error e => cases hx
    | ok gs =>
        cases hx
        exact hg gs
  cases ps with
  | nil =>
      cases h
      exact List.cons_ne_nil _ _
  | cons p ps =>
      cases p with
      | lit text => exact hmap (hprepend text) h
      | dollar => exact hmap (hprepend ['$']) h
      | var name =>
          rw [fields] at h
          split at h
          · exact hmap (fun gs => List.cons_ne_nil _ gs) h
          · split at h
            · cases h
            · next value _ => exact hmap (hprepend value) h

theorem intercalate_prepend {fs : List Text} (m : Text) (hne : fs ≠ []) :
    m.intercalate (prepend text fs) = text ++ m.intercalate fs := by
  obtain ⟨field, fs, rfl⟩ := List.exists_cons_of_ne_nil hne
  cases fs with
  | nil => rw [prepend, List.intercalate_singleton, List.intercalate_singleton]
  | cons g fs =>
      rw [prepend, List.intercalate_cons_cons, List.intercalate_cons_cons, List.append_assoc,
        List.append_assoc, List.append_assoc]

/-- **The value of a template** is its fields around one name, joined by the value of that name. -/
theorem eval_eq_fields {m : Text} (h : f mark = .ok m) (ps : List Part) :
    eval f ps = (fields f mark ps).map (m.intercalate ·) := by
  have hprepend {x : Except ε Text} {y : Except ε (List Text)} (text : Text)
      (hfs : ∀ fs, y = .ok fs → fs ≠ []) (hxy : x = y.map (m.intercalate ·)) :
      x.map (text ++ ·) = (y.map (prepend text)).map (m.intercalate ·) := by
    subst hxy
    cases y with
    | error e => rfl
    | ok fs => exact congrArg Except.ok (intercalate_prepend m (hfs fs rfl)).symm
  induction ps with
  | nil => rfl
  | cons p ps ih =>
      have hne : ∀ fs, fields f mark ps = .ok fs → fs ≠ [] := fun fs => fields_ne_nil
      cases p with
      | lit text => exact hprepend text hne ih
      | dollar => exact hprepend ['$'] hne ih
      | var name =>
          rw [eval, fields]
          split
          · next e herror =>
            have hother : name ≠ mark := by
              rintro rfl
              rw [h] at herror
              cases herror
            rw [if_neg hother]
            rfl
          · next value hvalue =>
            split
            · next hmark =>
              rw [hmark, h] at hvalue
              cases hvalue
              rw [ih]
              cases hfs : fields f mark ps with
              | error e => rfl
              | ok fs =>
                  have hjoin : m.intercalate ([] :: fs) = m ++ m.intercalate fs :=
                    List.intercalate_cons_of_ne_nil (hne fs hfs)
                  exact congrArg Except.ok hjoin.symm
            · exact hprepend value hne ih

end Template
