import Mathlib.Tactic.NormNum
import Mathlib.Data.List.DropRight

/-!
# The RIL wrapper

The vendor's RIL answers requests through `OnRequestComplete`. The wrapper stands in between: of the
answer to `RIL_REQUEST_BASEBAND_VERSION` it passes on the last 45 characters, since AOSP supports no
more, and every other answer it passes on as it is.

The characters are counted without the spaces and copied with them, and the copy fills its array to
the last byte. So there is no string that the wrapper shortens as it should, `shim_truncates_iff`.

A pointer is modelled by the bytes of its object from there on. Leaving the object is a `Fault`, and
so is counting past the largest `int`.
-/

namespace VendorRs.RilWrapper

inductive Fault where
  | readPastEnd
  | overflow
  deriving DecidableEq, Repr

/-- The number of the request is all that the wrapper reads of a `RequestInfo`. -/
structure CommandInfo where
  requestNumber : Int
  deriving DecidableEq, Repr

structure RequestInfo where
  pCI : CommandInfo
  deriving DecidableEq, Repr

/-- A call of `ossRilEnv->OnRequestComplete`; a pointer may be `NULL`. -/
structure OnRequestComplete where
  t : Option RequestInfo
  e : Int
  response : Option (List UInt8)
  responselen : Nat
  deriving DecidableEq, Repr

/-! ## Strings in C -/

/-- The characters of a string, up to the NUL behind them. -/
structure CString where
  chars : List UInt8
  nulFree : 0 ∉ chars
  deriving DecidableEq

/-- A string of ASCII characters. -/
def bytes (text : String) : List UInt8 := text.toList.map fun c => UInt8.ofNat c.toNat

/-- An object that begins with the string. -/
def CString.object (s : CString) (rest : List UInt8) : List UInt8 := s.chars ++ 0 :: rest

/-- The string a pointer denotes, if the object it points into has a NUL from there on. -/
def denotes (object : List UInt8) : Option CString :=
  if 0 ∈ object then
    some ⟨object.takeWhile (· ≠ 0), fun h => by simpa using List.mem_takeWhile_imp h⟩
  else none

/-- The last `n` characters of it, or all there are. -/
def CString.last (s : CString) (n : Nat) : CString :=
  ⟨s.chars.rtake n, fun h => s.nulFree (List.mem_of_mem_drop h)⟩

/-- `p[i]`. -/
def index (p : List UInt8) (i : Nat) : Except Fault UInt8 :=
  match p[i]? with
  | some c => .ok c
  | none => .error .readPastEnd

/-! ## The wrapper -/

def maxlenght : Nat := 45

/-- ASCII `' '`. -/
def space : UInt8 := 32

/-- How long the string is: `m` goes up to its end. Both numbers are `int`s, and `charcount` is
never the larger one. -/
def countChars (m charcount : Nat) : List UInt8 → Except Fault Nat
  | [] => .error .readPastEnd
  | c :: tempResponse =>
      if c = 0 then .ok charcount
      else if m + 1 < 2 ^ 31 then
        countChars (m + 1) (if c ≠ space then charcount + 1 else charcount) tempResponse
      else .error .overflow

/-- `finalResponse[m] = tempResponse[newcharcount + m]`. -/
def copyChar (tempResponse : List UInt8) (newcharcount : Nat) (finalResponse : List UInt8)
    (m : Nat) : Except Fault (List UInt8) := do
  let c ← index tempResponse (newcharcount + m)
  return finalResponse.set m c

/-- The loop that fills `finalResponse`. -/
def copyChars (tempResponse : List UInt8) (newcharcount : Nat) (finalResponse : List UInt8) :
    Except Fault (List UInt8) :=
  (List.range maxlenght).foldlM (copyChar tempResponse newcharcount) finalResponse

/-- The branch of `RIL_REQUEST_BASEBAND_VERSION`. -/
def reduceBaseband (tempResponse : List UInt8) : Except Fault (List UInt8) := do
  let charcount ← countChars 0 0 tempResponse
  if charcount > maxlenght then
    -- the array is gone when its pointer is used; here it keeps what has been written to it
    copyChars tempResponse (charcount - maxlenght) (List.replicate maxlenght 0)
  else return tempResponse

/-- `onRequestCompleteShim`. The number of the request is a constant of `telephony/ril.h`. -/
def onRequestCompleteShim (rilRequestBasebandVersion : Int) (t : Option RequestInfo) (e : Int)
    (response : Option (List UInt8)) (responselen : Nat) : Except Fault OnRequestComplete :=
  match response, t with
  | none, _ => .ok ⟨t, e, response, responselen⟩
  | some _, none => .ok ⟨t, e, response, responselen⟩
  | some tempResponse, some requestInfo =>
      if requestInfo.pCI.requestNumber = rilRequestBasebandVersion then do
        let response ← reduceBaseband tempResponse
        return ⟨t, e, some response, responselen⟩
      else .ok ⟨t, e, response, responselen⟩

/-- What is passed on denotes this string. -/
def PassesOn (call : Except Fault OnRequestComplete) (s : CString) : Prop :=
  ∃ passed, call = .ok passed ∧ passed.response.bind denotes = some s

instance (call : Except Fault OnRequestComplete) (s : CString) : Decidable (PassesOn call s) :=
  match call with
  | .ok passed =>
      decidable_of_iff (passed.response.bind denotes = some s)
        ⟨fun h => ⟨passed, rfl, h⟩, fun ⟨_, hok, h⟩ => Except.ok.inj hok ▸ h⟩
  | .error _ => isFalse fun ⟨_, hok, _⟩ => nomatch hok

variable {s : CString} {object rest : List UInt8} {n m newcharcount : Nat}
  {rilRequestBasebandVersion e : Int} {t : Option RequestInfo} {response : Option (List UInt8)}
  {responselen : Nat} {passed : OnRequestComplete}

/-! ## Denoted strings -/

@[simp] theorem denotes_object : denotes (s.object rest) = some s := by
  have hmem : 0 ∈ s.object rest := by simp [CString.object]
  have hchars : (s.object rest).takeWhile (· ≠ 0) = s.chars := by
    rw [CString.object, List.takeWhile_append_of_pos]
    · simp
    · intro c hc
      simpa using ne_of_mem_of_not_mem hc s.nulFree
  rw [denotes, if_pos hmem]
  congr

theorem denotes_of_nulFree (h : 0 ∉ object) : denotes object = none := if_neg h

/-- A string is its own end only if it is short enough. -/
theorem last_eq_self_iff : s.last n = s ↔ s.chars.length ≤ n := by
  constructor
  · intro h
    have hlength := congrArg (List.length ∘ CString.chars) h
    simp only [Function.comp_apply, CString.last, List.rtake, List.length_drop] at hlength
    omega
  · intro h
    have hzero : s.chars.length - n = 0 := Nat.sub_eq_zero_of_le h
    simp only [CString.last, List.rtake, hzero, List.drop_zero]

/-! ## The loops -/

theorem countChars_chars {charcount : Nat} {chars : List UInt8} (hchars : 0 ∉ chars)
    (hlength : m + chars.length < 2 ^ 31) :
    countChars m charcount (chars ++ 0 :: rest) =
      .ok (charcount + chars.countP (· ≠ space)) := by
  induction chars generalizing m charcount with
  | nil => rfl
  | cons c chars ih =>
      obtain ⟨hc, hchars⟩ : (0 : UInt8) ≠ c ∧ 0 ∉ chars := by simpa using hchars
      rw [List.length_cons] at hlength
      rw [List.cons_append, countChars, if_neg hc.symm, if_pos (by omega),
        ih hchars (by omega), List.countP_cons]
      by_cases hspace : c = space
      · simp [hspace]
      · simp [hspace, Nat.add_assoc, Nat.add_comm]

/-- If the string is too long for an `int`, nothing comes of it. -/
theorem countChars_overflow {charcount : Nat} {chars : List UInt8} (hchars : 0 ∉ chars)
    (hm : m < 2 ^ 31) (hlength : 2 ^ 31 ≤ m + chars.length) :
    countChars m charcount (chars ++ 0 :: rest) = .error .overflow := by
  induction chars generalizing m charcount with
  | nil =>
      rw [List.length_nil] at hlength
      omega
  | cons c chars ih =>
      obtain ⟨hc, hchars⟩ : (0 : UInt8) ≠ c ∧ 0 ∉ chars := by simpa using hchars
      rw [List.length_cons] at hlength
      rw [List.cons_append, countChars, if_neg hc.symm]
      split
      · next hnext => exact ih hchars hnext (by omega)
      · rfl

/-- After `k` rounds the first `k` bytes of the array are written. -/
theorem copyChar_rounds {finalResponse : List UInt8} {k : Nat}
    (hroom : k ≤ finalResponse.length) (hobject : newcharcount + k ≤ object.length) :
    (List.range k).foldlM (copyChar object newcharcount) finalResponse =
      .ok ((object.drop newcharcount).take k ++ finalResponse.drop k) := by
  induction k with
  | zero => rfl
  | succ k ih =>
      have hread : index object (newcharcount + k) = .ok object[newcharcount + k] := by
        rw [index, List.getElem?_eq_getElem]
      have hround : copyChar object newcharcount
          ((object.drop newcharcount).take k ++ finalResponse.drop k) k =
          .ok ((object.drop newcharcount).take (k + 1) ++ finalResponse.drop (k + 1)) := by
        have hfilled : ((object.drop newcharcount).take k).length = k := by
          rw [List.length_take, List.length_drop]
          omega
        rw [copyChar, hread]
        show Except.ok _ = _
        rw [List.set_append_right _ _ (by omega), hfilled, Nat.sub_self,
          List.drop_eq_getElem_cons (by omega : k < finalResponse.length), List.set_cons_zero,
          List.take_succ_eq_append_getElem (by rw [List.length_drop]; omega)]
        simp
      rw [List.range_succ, List.foldlM_append, ih (by omega) (by omega)]
      simp only [List.foldlM_cons, List.foldlM_nil, bind_pure]
      exact hround

/-- The array is filled to the last byte. -/
theorem copyChars_eq (hobject : newcharcount + maxlenght ≤ object.length) :
    copyChars object newcharcount (List.replicate maxlenght 0) =
      .ok ((object.drop newcharcount).take maxlenght) := by
  have hroom : maxlenght ≤ (List.replicate maxlenght (0 : UInt8)).length := by
    rw [List.length_replicate]
  have hfull : (List.replicate maxlenght (0 : UInt8)).drop maxlenght = [] := rfl
  rw [copyChars, copyChar_rounds hroom hobject, hfull, List.append_nil]

/-! ## What is passed on -/

/-- The characters of a string that are not spaces. -/
def CString.charcount (s : CString) : Nat := s.chars.countP (· ≠ space)

theorem charcount_le : s.charcount ≤ s.chars.length := List.countP_le_length

/-- What becomes of a string whose length is an `int`: with 45 characters to count, or fewer, it is
not touched. With more it is cut at both ends, and what ended it is cut off. -/
theorem reduceBaseband_object (hlength : s.chars.length < 2 ^ 31) :
    reduceBaseband (s.object rest) =
      .ok (if s.charcount ≤ maxlenght then s.object rest
        else (s.chars.drop (s.charcount - maxlenght)).take maxlenght) := by
  have hcount : countChars 0 0 (s.object rest) = .ok s.charcount := by
    rw [CString.object, countChars_chars s.nulFree (by omega), Nat.zero_add]
    rfl
  have hle := charcount_le (s := s)
  rw [reduceBaseband, hcount]
  show (if s.charcount > maxlenght then _ else _) = _
  by_cases hshort : s.charcount ≤ maxlenght
  · rw [if_neg (Nat.not_lt.mpr hshort), if_pos hshort]
    rfl
  · have hdropped : s.charcount - maxlenght + maxlenght ≤ s.chars.length := by omega
    rw [if_pos (Nat.lt_of_not_le hshort), if_neg hshort, copyChars_eq]
    · rw [CString.object, List.drop_append_of_le_length (by omega), List.take_append_of_le_length]
      rw [List.length_drop]
      omega
    · rw [CString.object, List.length_append]
      omega

theorem reduceBaseband_overflow (hlength : 2 ^ 31 ≤ s.chars.length) :
    reduceBaseband (s.object rest) = .error .overflow := by
  rw [reduceBaseband, CString.object, countChars_overflow s.nulFree (by decide) (by omega)]
  rfl

/-- **The answer to the request for the baseband version comes with the last 45 characters of the
string, as a string, if and only if it has no more than these.** -/
theorem shim_truncates_iff (rilRequestBasebandVersion e : Int) (s : CString) (rest : List UInt8)
    (responselen : Nat) :
    PassesOn
        (onRequestCompleteShim rilRequestBasebandVersion (some ⟨⟨rilRequestBasebandVersion⟩⟩) e
          (some (s.object rest)) responselen)
        (s.last 45) ↔
      s.chars.length ≤ 45 := by
  have hle := charcount_le (s := s)
  rw [onRequestCompleteShim, if_pos rfl]
  by_cases hlength : s.chars.length < 2 ^ 31
  · rw [reduceBaseband_object hlength]
    by_cases hcount : s.charcount ≤ maxlenght
    · -- the string is passed on as it is
      rw [if_pos hcount]
      constructor
      · rintro ⟨_, hok, hdenotes⟩
        cases hok
        have hself : s = s.last 45 := by simpa using hdenotes
        exact last_eq_self_iff.mp hself.symm
      · intro hshort
        refine ⟨_, rfl, ?_⟩
        rw [last_eq_self_iff.mpr hshort]
        exact denotes_object
    · -- no NUL is left
      rw [if_neg hcount]
      refine iff_of_false ?_ ?_
      · rintro ⟨_, hok, hdenotes⟩
        cases hok
        have hnulFree : 0 ∉ (s.chars.drop (s.charcount - maxlenght)).take maxlenght := fun h =>
          s.nulFree (List.mem_of_mem_drop (List.mem_of_mem_take h))
        rw [Option.bind_some, denotes_of_nulFree hnulFree] at hdenotes
        cases hdenotes
      · unfold maxlenght at hcount
        omega
  · rw [reduceBaseband_overflow (Nat.le_of_not_lt hlength)]
    refine iff_of_false ?_ (by omega)
    rintro ⟨_, hok, -⟩
    cases hok

/-- A version of 46 characters. -/
theorem shim_leaves_no_nul :
    ¬ PassesOn
      (onRequestCompleteShim 51 (some ⟨⟨51⟩⟩) 0
        (some (bytes "MPSS.AT.4.0.c2.15-00007-SDM845_GEN_PACK-1.1234" ++ [0])) 8)
      (CString.last
        ⟨bytes "MPSS.AT.4.0.c2.15-00007-SDM845_GEN_PACK-1.1234", by decide +kernel⟩ 45) := by
  decide +kernel

end VendorRs.RilWrapper
