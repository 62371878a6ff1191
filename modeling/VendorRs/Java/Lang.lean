import Mathlib.Tactic.Common
import Mathlib.Tactic.NormNum
import Mathlib.Data.List.Infix
import Mathlib.Data.List.DropRight
import VendorRs.Lib.Fields

/-!
# The parts of the Java library the services stand on

Only what the modelled code calls, each under its Java name and with the behaviour its
documentation gives it: list access by index, `String.contains` and `split`,
`BufferedReader.readLine`, `Character.digit`, `Integer.valueOf`, `Long.parseLong`.

A callback of a service either returns in some state or ends with an exception *and leaves a state
behind*, since Java rolls nothing back. `Outcome` keeps both, so a theorem about what an exception
leaves can be stated.

`toLowerCase()` without an argument consults the default locale of the device. The locale is
therefore a parameter of the model, not a fixed function, and every theorem holds in all of them.
-/

namespace Java

inductive Exception where
  | indexOutOfBounds
  | numberFormat
  | illegalArgument
  | illegalState
  | nullPointer
  | io
  | runtime
  /-- `Context.unregisterReceiver` of a receiver that is not registered. -/
  | receiverNotRegistered
  deriving DecidableEq, Repr

/-- What a method of an object with state `σ` comes to: its result, or the exception that ended it
together with the state at that point. A callback's result is the new state, `Outcome σ σ`. -/
abbrev Outcome (σ : Type) : Type → Type := Except (Exception × σ)

/-- A computation on values, made while the object is in state `s`: if it throws, `s` is what is
left behind. -/
def leaving {σ α : Type} (s : σ) (x : Except Exception α) : Outcome σ α :=
  x.mapError (·, s)

@[simp] theorem leaving_ok {σ α : Type} (s : σ) (a : α) :
    leaving s (.ok a : Except Exception α) = .ok a := rfl

@[simp] theorem leaving_error {σ α : Type} (s : σ) (x : Exception) :
    leaving s (.error x : Except Exception α) = .error (x, s) := rfl

@[simp] theorem leaving_eq_ok {σ α : Type} {s : σ} {x : Except Exception α} {a : α} :
    leaving s x = .ok a ↔ x = .ok a := by
  cases x <;> simp

/-- The same outcome for an object that has this one as a part, or of which this is a part: whether
it returns or throws, the state is changed by `f`. -/
def Outcome.mapState {σ τ : Type} (f : σ → τ) : Outcome σ σ → Outcome τ τ
  | .ok s => .ok (f s)
  | .error (x, s) => .error (x, f s)

/-- The state that is there afterwards, whether it returned or threw. -/
def Outcome.left {σ : Type} : Outcome σ σ → σ
  | .ok s => s
  | .error (_, s) => s

theorem Outcome.left_of_ok {σ : Type} {o : Outcome σ σ} {s : σ} (h : o = .ok s) : o.left = s :=
  congrArg Outcome.left h

theorem Outcome.mapState_eq_ok {σ τ : Type} {f : σ → τ} {o : Outcome σ σ} {t : τ} :
    o.mapState f = .ok t ↔ ∃ s, o = .ok s ∧ f s = t := by
  cases o <;> simp [Outcome.mapState]

theorem Outcome.left_mapState {σ τ : Type} (f : σ → τ) (o : Outcome σ σ) :
    (o.mapState f).left = f o.left := by
  cases o <;> rfl

@[simp] theorem ok_bind {ε α β : Type} (a : α) (f : α → Except ε β) :
    (Except.ok a >>= f) = f a := rfl

@[simp] theorem error_bind {ε α β : Type} (x : ε) (f : α → Except ε β) :
    (Except.error x >>= f) = .error x := rfl

/-- A sequence returns only if its first half does. -/
theorem bind_eq_ok {ε α β : Type} {x : Except ε α} {f : α → Except ε β} {b : β} :
    (x >>= f) = .ok b ↔ ∃ a, x = .ok a ∧ f a = .ok b := by
  cases x <;> simp

/-- A sequence fails where its first half does, or where its second half does after it. -/
theorem bind_eq_error {ε α β : Type} {x : Except ε α} {f : α → Except ε β} {e : ε} :
    (x >>= f) = .error e ↔ x = .error e ∨ ∃ a, x = .ok a ∧ f a = .error e := by
  cases x <;> simp

@[simp] theorem leaving_eq_error {σ α : Type} {s s' : σ} {x : Except Exception α}
    {y : Exception} : leaving s x = .error (y, s') ↔ x = .error y ∧ s = s' := by
  cases x <;> simp

/-! ## Lists -/

section Lists

variable {α : Type}

/-- `List.get(int)`. -/
def getAt (l : List α) (i : Nat) : Except Exception α :=
  match l[i]? with
  | some a => .ok a
  | none => .error .indexOutOfBounds

/-- `List.remove(int)`; the removed element is never used. -/
def removeAt (l : List α) (i : Nat) : Except Exception (List α) :=
  if i < l.length then .ok (l.eraseIdx i) else .error .indexOutOfBounds

theorem getAt_eq_ok {l : List α} {i : Nat} {a : α} (h : l[i]? = some a) : getAt l i = .ok a := by
  rw [getAt, h]

theorem getAt_eq_error {l : List α} {i : Nat} {x : Exception} (h : getAt l i = .error x) :
    x = .indexOutOfBounds := by
  unfold getAt at h
  split at h
  · cases h
  · cases h
    rfl

theorem removeAt_eq_ok {l : List α} {i : Nat} (h : i < l.length) :
    removeAt l i = .ok (l.eraseIdx i) := if_pos h

end Lists

/-! ## Strings -/

/-- The default locale, as far as the code depends on it. -/
structure DefaultLocale where
  toLowerCase : String → String

/-- Lower-casing of the letters `A` to `Z`, which every locale but the Turkic ones shares. -/
def DefaultLocale.ascii : DefaultLocale :=
  ⟨fun text => String.ofList (text.toList.map Char.toLower)⟩

/-- `text.contains(part)`. -/
def contains (text part : String) : Bool := decide (part.toList <:+: text.toList)

/-- `text.toLowerCase().contains(part.toLowerCase())`, the only way the code compares titles. -/
def containsIgnoreCase (locale : DefaultLocale) (text part : String) : Bool :=
  contains (locale.toLowerCase text) (locale.toLowerCase part)

/-- `text.split(delim)` for a single literal character: trailing empty fields are dropped, and a
text in which the character does not occur is its own only field, even when empty. -/
def split (delim : Char) (text : String) : List String :=
  if text.toList.contains delim then
    ((text.toList.splitOn delim).rdropWhile (·.isEmpty)).map String.ofList
  else [text]

/-- `text.startsWith(start)`. -/
def startsWith (text start : String) : Bool := start.toList.isPrefixOf text.toList

/-- `text.substring(beginIndex)`. Java counts `char`s; the model counts characters, so it never cuts
one outside the Basic Multilingual Plane in half. -/
def substring (text : String) (beginIndex : Nat) : Except Exception String :=
  if beginIndex ≤ text.length then .ok (String.ofList (text.toList.drop beginIndex))
  else .error .indexOutOfBounds

/-- `text.replace(part, "")`, from the left. -/
def deleteAll (text part : String) : String :=
  String.ofList (Fields.delete part.toList text.toList)

/-- `text.replaceAll` of one literal character by another. -/
def replaceAll (text : String) (old new : Char) : String :=
  String.ofList (text.toList.map fun c => if c = old then new else c)

/-- Successive `readLine` results on a text: a line ends at `\n`, `\r` or `\r\n`, and a text that
ends in a line terminator has no further empty line after it. `acc` is the current line so far. -/
def readLinesFrom (acc : List Char) : List Char → List (List Char)
  | [] => if acc.isEmpty then [] else [acc]
  | '\r' :: '\n' :: cs => acc :: readLinesFrom [] cs
  | c :: cs =>
      if c = '\n' ∨ c = '\r' then acc :: readLinesFrom [] cs else readLinesFrom (acc ++ [c]) cs

/-- Every `readLine` result of a `BufferedReader` over the text, until it returns `null`. -/
def readLines (text : String) : List String := (readLinesFrom [] text.toList).map String.ofList

/-- A line without terminators in it, and then the rest of the text. -/
theorem readLinesFrom_line {acc l cs : List Char} (hl : ∀ c ∈ l, c ≠ '\n' ∧ c ≠ '\r') :
    readLinesFrom acc (l ++ '\n' :: cs) = (acc ++ l) :: readLinesFrom [] cs := by
  induction l generalizing acc with
  | nil => simp [readLinesFrom]
  | cons c l ih =>
      obtain ⟨hc, hl⟩ := List.forall_mem_cons.mp hl
      rw [List.cons_append, readLinesFrom, if_neg (by tauto), ih hl, List.append_assoc]
      · rfl
      · rintro _ rfl
        exact absurd rfl hc.2

theorem readLines_line {line rest : String} (hline : ∀ c ∈ line.toList, c ≠ '\n' ∧ c ≠ '\r') :
    readLines (line ++ "\n" ++ rest) = line :: readLines rest := by
  have htext : (line ++ "\n" ++ rest).toList = line.toList ++ '\n' :: rest.toList := by simp
  rw [readLines, htext, readLinesFrom_line hline]
  simp [readLines]

example : readLines "a\r\n\nb\n" = ["a", "", "b"] := by decide

example : split ',' "p,,FF0000,," = ["p", "", "FF0000"] := by decide

/-! ## Integers -/

/-- The zeros of the decimal digit blocks of the Basic Multilingual Plane (category `Nd`). -/
def decimalZeros : List Nat :=
  [0x0030, 0x0660, 0x06F0, 0x07C0, 0x0966, 0x09E6, 0x0A66, 0x0AE6, 0x0B66, 0x0BE6, 0x0C66, 0x0CE6,
   0x0D66, 0x0DE6, 0x0E50, 0x0ED0, 0x0F20, 0x1040, 0x1090, 0x17E0, 0x1810, 0x1946, 0x19D0, 0x1A80,
   0x1A90, 0x1B50, 0x1BB0, 0x1C40, 0x1C50, 0xA620, 0xA8D0, 0xA900, 0xA9D0, 0xA9F0, 0xAA50, 0xABF0,
   0xFF10]

/-- The value of a letter as a digit above nine: `A` to `Z`, `a` to `z` and their full-width
forms. -/
def letterDigit (n : Nat) : Option Nat :=
  if 0x41 ≤ n ∧ n ≤ 0x5A then some (n - 0x41 + 10)
  else if 0x61 ≤ n ∧ n ≤ 0x7A then some (n - 0x61 + 10)
  else if 0xFF21 ≤ n ∧ n ≤ 0xFF3A then some (n - 0xFF21 + 10)
  else if 0xFF41 ≤ n ∧ n ≤ 0xFF5A then some (n - 0xFF41 + 10)
  else none

/-- `Character.digit(c, radix)`, with `none` for `-1`. A character outside the Basic Multilingual
Plane is two `char`s in Java, neither of which is a digit. -/
def digit (radix : Nat) (c : Char) : Option Nat :=
  let value :=
    match decimalZeros.find? (fun z => z ≤ c.toNat ∧ c.toNat ≤ z + 9) with
    | some z => some (c.toNat - z)
    | none => letterDigit c.toNat
  value.filter (· < radix)

/-- The value of a non-empty run of digits, most significant first. -/
def digitsValue (radix : Nat) (cs : List Char) : Option Nat :=
  if cs.isEmpty then none
  else cs.foldl (fun acc c => acc.bind fun n => (digit radix c).map (n * radix + ·)) (some 0)

/-- The value of an optional sign followed by digits. -/
def signedValue (radix : Nat) : List Char → Option Int
  | '-' :: cs => (digitsValue radix cs).map Int.negOfNat
  | '+' :: cs => (digitsValue radix cs).map Int.ofNat
  | cs => (digitsValue radix cs).map Int.ofNat

/-- `parseInt`/`parseLong`: an optional sign, at least one digit, and a value between `-bound` and
`bound - 1`. The range is checked once at the end; Java checks it digit by digit, with the same
verdict. -/
def parseSigned (bound : Int) (radix : Nat) (text : String) : Except Exception Int :=
  match signedValue radix text.toList with
  | some v => if -bound ≤ v ∧ v < bound then .ok v else .error .numberFormat
  | none => .error .numberFormat

/-- `Integer.valueOf(String)`, also `Integer.parseInt(String)`. -/
def valueOf (text : String) : Except Exception Int := parseSigned (2 ^ 31) 10 text

/-- `Long.parseLong(String, int)`. -/
def parseLong (text : String) (radix : Nat) : Except Exception Int :=
  parseSigned (2 ^ 63) radix text

/-- Reduction of an exact result to a 32-bit `int`. -/
def toInt (n : Int) : Int := n.bmod (2 ^ 32)

/-- Reduction of an exact result to a 64-bit `long`. -/
def toLong (n : Int) : Int := n.bmod (2 ^ 64)

theorem toInt_lt (n : Int) : toInt n < 2 ^ 31 := by
  unfold toInt
  have := Int.bmod_lt (x := n) (m := 2 ^ 32) (by decide)
  omega

theorem toInt_range (n : Int) : -2 ^ 31 ≤ toInt n ∧ toInt n < 2 ^ 31 := by
  have hle := Int.le_bmod (x := n) (m := 2 ^ 32) (by decide)
  refine ⟨?_, toInt_lt n⟩
  unfold toInt
  omega

theorem toInt_of_lt {n : Int} (h₀ : -2 ^ 31 ≤ n) (h₁ : n < 2 ^ 31) : toInt n = n :=
  Int.bmod_eq_of_le (by omega) (by omega)

theorem toInt_emod (n : Int) : toInt n % 2 ^ 32 = n % 2 ^ 32 := Int.bmod_emod

theorem toLong_of_lt {n : Int} (h₀ : -2 ^ 63 ≤ n) (h₁ : n < 2 ^ 63) : toLong n = n :=
  Int.bmod_eq_of_le (by omega) (by omega)

/-- The texts that `valueOf` takes are the 32-bit integers. -/
theorem valueOf_eq_ok {text : String} {n : Int} :
    valueOf text = .ok n ↔ signedValue 10 text.toList = some n ∧ -2 ^ 31 ≤ n ∧ n < 2 ^ 31 := by
  unfold valueOf parseSigned
  cases signedValue 10 text.toList with
  | none => simp
  | some v =>
      rw [Option.some.injEq]
      constructor
      · intro h
        by_cases hrange : -2 ^ 31 ≤ v ∧ v < 2 ^ 31
        · cases (if_pos hrange).symm.trans h
          exact ⟨rfl, hrange⟩
        · cases (if_neg hrange).symm.trans h
      · rintro ⟨rfl, hrange⟩
        exact if_pos hrange

/-- What `valueOf` returns is a 32-bit integer. -/
theorem valueOf_range {text : String} {n : Int} (h : valueOf text = .ok n) :
    -2 ^ 31 ≤ n ∧ n < 2 ^ 31 :=
  (valueOf_eq_ok.mp h).2

end Java
