import VendorRs.Java.Lang
import VendorRs.Lib.Fields

/-!
# Reading uevents

A uevent is one datagram from the kernel, a sequence of fields that each end in a NUL byte.
`ReadUevent` receives it into a buffer, puts two NUL bytes behind it and has `ParseEvent` walk over
the fields with a pointer. The pointer is modelled as the rest of the buffer from there on; reading
past the second NUL byte, where nothing has been written, is a `Fault`. `parseEvent_exact`: it does
not happen, whatever the datagram, and what is found can be said without the pointer.
-/

namespace VendorRs.TriStateKeyDaemon

open Java

/-- What ends the daemon. -/
inductive Fault where
  /-- A byte behind the end of the message is read. -/
  | readPastEnd
  /-- `std::stoi` throws, and nothing catches it. -/
  | invalidArgument
  | outOfRange
  deriving DecidableEq, Repr

abbrev Byte : Type := UInt8

/-- The bytes of a text of ASCII characters. -/
def bytes (text : String) : List Byte := text.toList.map fun c => UInt8.ofNat c.toNat

/-- The fields of a `Uevent`. -/
structure Uevent where
  action : List Byte
  path : List Byte
  deriving DecidableEq, Repr

/-- A new `Uevent`. -/
def Uevent.empty : Uevent := ⟨[], []⟩

def ueventMsgLen : Nat := 2048

/-! ## `ParseEvent` -/

/-- `!strncmp(msg, text, n)` for a text of `n` bytes, none of them NUL: bytes are read up to the
first that differs. -/
def strncmpEq : List Byte → List Byte → Except Fault Bool
  | _, [] => .ok true
  | [], _ :: _ => .error .readPastEnd
  | c :: msg, k :: text => if c = k then strncmpEq msg text else .ok false

/-- The bytes up to the next NUL, and what is behind it. -/
def cutField : List Byte → Except Fault (List Byte × List Byte)
  | [] => .error .readPastEnd
  | c :: msg =>
      if c = 0 then .ok ([], msg)
      else do
        let (field, rest) ← cutField msg
        return (c :: field, rest)

/-- The loop of `ParseEvent`. Each round goes past a NUL byte, so a fuel of the length is enough. -/
def parseFields : Nat → Uevent → List Byte → Except Fault Uevent
  | 0, _, _ => .error .readPastEnd
  | _ + 1, _, [] => .error .readPastEnd
  | fuel + 1, uevent, c :: cs =>
      let msg := c :: cs
      if c = 0 then .ok uevent
      else do
        let isAction ← strncmpEq msg (bytes "ACTION=")
        if isAction then
          let (action, rest) ← cutField (msg.drop 7)
          parseFields fuel { uevent with action := action } rest
        else
          let isPath ← strncmpEq msg (bytes "DEVPATH=")
          if isPath then
            let (path, rest) ← cutField (msg.drop 8)
            parseFields fuel { uevent with path := path } rest
          else
            let (_, rest) ← cutField msg
            parseFields fuel uevent rest

/-- `ParseEvent`, which clears the fields first. -/
def parseEvent (msg : List Byte) (uevent : Uevent) : Except Fault Uevent :=
  parseFields msg.length { uevent with action := [], path := [] } msg

/-! ## `ReadUevent` -/

/-- What `ReadUevent` makes of a datagram, the buffer taking `UEVENT_MSG_LEN` bytes of it: its
result and the `Uevent`. -/
def readUevent (datagram : List Byte) (uevent : Uevent) : Except Fault (Bool × Uevent) :=
  let msg := datagram.take ueventMsgLen
  let n := msg.length
  if n = 0 then .ok (false, uevent)
  else if n ≥ ueventMsgLen then
    -- discarded, and still `true`
    .ok (true, uevent)
  else do
    let uevent ← parseEvent (msg ++ [0, 0]) uevent
    return (true, uevent)

/-! ## What `ParseEvent` makes of a message -/

/-- The fields of a message before the first empty one. -/
def fields (msg : List Byte) : List (List Byte) := (msg.splitOn 0).takeWhile (! ·.isEmpty)

/-- The text behind `start` in the last field that begins with it, if there is one. -/
def lastValue? (start : List Byte) (fields : List (List Byte)) : Option (List Byte) :=
  (fields.filter (start.isPrefixOf ·)).getLast?.map (·.drop start.length)

def lastValue (start : List Byte) (fields : List (List Byte)) : List Byte :=
  (lastValue? start fields).getD []

/-- What one field changes. -/
def Uevent.read (uevent : Uevent) (field : List Byte) : Uevent :=
  if (bytes "ACTION=").isPrefixOf field then { uevent with action := field.drop 7 }
  else if (bytes "DEVPATH=").isPrefixOf field then { uevent with path := field.drop 8 }
  else uevent

section Reading

variable {text field rest start : List Byte} {fs : List (List Byte)} {uevent : Uevent} {fuel : Nat}

/-- A field is compared up to its end at most. -/
theorem strncmpEq_field (htext : 0 ∉ text) :
    strncmpEq (field ++ 0 :: rest) text = .ok (text.isPrefixOf field) := by
  induction text generalizing field with
  | nil => cases field <;> rfl
  | cons k text ih =>
      obtain ⟨hk, htext⟩ : (0 : Byte) ≠ k ∧ 0 ∉ text := by simpa using htext
      cases field with
      | nil => exact if_neg hk
      | cons c field =>
          rw [List.cons_append, strncmpEq]
          by_cases hc : c = k
          · rw [if_pos hc, ih htext, hc]
            simp
          · rw [if_neg hc]
            have hne : (k == c) = false := beq_eq_false_iff_ne.mpr (Ne.symm hc)
            rw [List.isPrefixOf, hne, Bool.false_and]

theorem cutField_field (hfield : 0 ∉ field) :
    cutField (field ++ 0 :: rest) = .ok (field, rest) := by
  induction field with
  | nil => rfl
  | cons c field ih =>
      obtain ⟨hc, hfield⟩ : (0 : Byte) ≠ c ∧ 0 ∉ field := by simpa using hfield
      rw [List.cons_append, cutField, if_neg (Ne.symm hc), ih hfield]
      rfl

/-- Behind the beginning of a field there is the rest of it. -/
theorem drop_field (h : start.isPrefixOf field = true) :
    (field ++ 0 :: rest).drop start.length = field.drop start.length ++ 0 :: rest := by
  apply List.drop_append_of_le_length
  exact (List.isPrefixOf_iff_prefix.mp h).length_le

/-- One round of the loop. -/
theorem parseFields_field (hne : field ≠ []) (hfield : 0 ∉ field) :
    parseFields (fuel + 1) uevent (field ++ 0 :: rest) =
      parseFields fuel (uevent.read field) rest := by
  have hdrop : ∀ n, 0 ∉ field.drop n := by
    intro n hmem
    exact hfield (List.mem_of_mem_drop hmem)
  have haction : strncmpEq (field ++ 0 :: rest) (bytes "ACTION=") = _ :=
    strncmpEq_field (by decide)
  have hpath : strncmpEq (field ++ 0 :: rest) (bytes "DEVPATH=") = _ :=
    strncmpEq_field (by decide)
  have hround : parseFields (fuel + 1) uevent (field ++ 0 :: rest) =
      (strncmpEq (field ++ 0 :: rest) (bytes "ACTION=") >>= fun isAction =>
        if isAction then
          cutField ((field ++ 0 :: rest).drop 7) >>= fun r =>
            parseFields fuel { uevent with action := r.1 } r.2
        else
          strncmpEq (field ++ 0 :: rest) (bytes "DEVPATH=") >>= fun isPath =>
            if isPath then
              cutField ((field ++ 0 :: rest).drop 8) >>= fun r =>
                parseFields fuel { uevent with path := r.1 } r.2
            else
              cutField (field ++ 0 :: rest) >>= fun r => parseFields fuel uevent r.2) := by
    obtain ⟨c, cs, rfl⟩ := List.exists_cons_of_ne_nil hne
    have hc : c ≠ 0 := by
      rintro rfl
      exact hfield List.mem_cons_self
    rw [List.cons_append, parseFields]
    exact if_neg hc
  rw [hround, haction, ok_bind, hpath, ok_bind, Uevent.read]
  by_cases hisAction : (bytes "ACTION=").isPrefixOf field = true
  · rw [if_pos hisAction, if_pos hisAction, show (7 : Nat) = (bytes "ACTION=").length from rfl,
      drop_field hisAction, cutField_field (hdrop _), ok_bind]
  · rw [if_neg hisAction, if_neg hisAction]
    by_cases hisPath : (bytes "DEVPATH=").isPrefixOf field = true
    · rw [if_pos hisPath, if_pos hisPath, show (8 : Nat) = (bytes "DEVPATH=").length from rfl,
        drop_field hisPath, cutField_field (hdrop _), ok_bind]
    · rw [if_neg hisPath, if_neg hisPath, cutField_field hfield, ok_bind]

/-- The loop goes over the fields, and ends at the first empty one. -/
theorem parseFields_fields (uevent : Uevent) (rest : List Byte)
    (hfs : ∀ f ∈ fs, f ≠ [] ∧ 0 ∉ f) (hfuel : fs.length < fuel) :
    parseFields fuel uevent (fs.flatMap (· ++ [0]) ++ 0 :: rest) =
      .ok (fs.foldl Uevent.read uevent) := by
  induction fs generalizing fuel uevent with
  | nil =>
      obtain ⟨fuel, rfl⟩ := Nat.exists_eq_succ_of_ne_zero (Nat.ne_of_gt hfuel)
      rfl
  | cons f fs ih =>
      obtain ⟨⟨hne, hf⟩, hfs⟩ := List.forall_mem_cons.mp hfs
      obtain ⟨fuel, rfl⟩ := Nat.exists_eq_succ_of_ne_zero (Nat.ne_zero_of_lt hfuel)
      have hmsg : (f :: fs).flatMap (· ++ [0]) ++ 0 :: rest =
          f ++ 0 :: (fs.flatMap (· ++ [0]) ++ 0 :: rest) := by simp
      rw [hmsg, parseFields_field hne hf, List.foldl_cons]
      exact ih _ hfs (Nat.lt_of_succ_lt_succ hfuel)

/-! ### The fields of a message -/

/-- Up to the first empty field, if there is one. -/
theorem takeWhile_append_nil {fs : List (List Byte)} (h : [] ∈ fs) :
    ∃ rest, fs = fs.takeWhile (! ·.isEmpty) ++ [] :: rest := by
  induction fs with
  | nil => cases h
  | cons f fs ih =>
      cases f with
      | nil => exact ⟨fs, rfl⟩
      | cons c f =>
          rcases List.mem_cons.mp h with h | h
          · cases h
          · obtain ⟨rest, hrest⟩ := ih h
            refine ⟨rest, ?_⟩
            rw [List.takeWhile_cons_of_pos (by rfl), List.cons_append, ← hrest]

theorem mem_fields {msg : List Byte} (h : field ∈ fields msg) : field ≠ [] ∧ 0 ∉ field := by
  constructor
  · rintro rfl
    cases List.mem_takeWhile_imp h
  · exact Fields.not_mem_of_mem_splitOn ((List.takeWhile_sublist _).subset h)

/-- A message with two NUL bytes at its end: its fields, an empty one, and something more. -/
theorem fields_append (datagram : List Byte) :
    ∃ rest, datagram ++ [0, 0] =
      (fields (datagram ++ [0, 0])).flatMap (· ++ [0]) ++ 0 :: rest := by
  have hsplit : (datagram ++ [0, 0]).splitOn 0 = (datagram ++ [0]).splitOn 0 ++ [[]] := by
    rw [List.append_cons datagram 0 [0]]
    exact List.splitOn_append_cons_self (datagram ++ [0]) []
  have hempty : [] ∈ (datagram ++ [0]).splitOn 0 := by
    rw [List.splitOn_append_cons_self datagram []]
    exact List.mem_append_right _ (List.mem_singleton_self _)
  obtain ⟨more, hmore⟩ := takeWhile_append_nil hempty
  -- the last of the empty fields is not reached
  have hfields : fields (datagram ++ [0, 0]) =
      ((datagram ++ [0]).splitOn 0).takeWhile (! ·.isEmpty) := by
    rw [fields, hsplit, List.takeWhile_append, if_neg]
    intro hlen
    have hlong := congrArg List.length hmore
    rw [List.length_append, hlen, List.length_cons] at hlong
    omega
  refine ⟨more.flatMap (· ++ [0]), ?_⟩
  calc datagram ++ [0, 0] = ((datagram ++ [0]).splitOn 0).flatMap (· ++ [0]) := by
        rw [Fields.flatMap_splitOn, List.append_assoc]
        rfl
    _ = (fields (datagram ++ [0, 0]) ++ [] :: more).flatMap (· ++ [0]) := by
        rw [hfields, ← hmore]
    _ = (fields (datagram ++ [0, 0])).flatMap (· ++ [0]) ++ 0 :: more.flatMap (· ++ [0]) := by
        simp

theorem length_le_flatMap (fs : List (List Byte)) : fs.length ≤ (fs.flatMap (· ++ [0])).length := by
  induction fs with
  | nil => exact le_rfl
  | cons f fs ih =>
      rw [List.flatMap_cons, List.length_append, List.length_append, List.length_cons]
      have hnul : [(0 : Byte)].length = 1 := rfl
      omega

/-- The fields are read one after the other, and a fuel of the length is enough for them. -/
theorem parseEvent_eq_foldl (datagram : List Byte) (uevent : Uevent) :
    parseEvent (datagram ++ [0, 0]) uevent =
      .ok ((fields (datagram ++ [0, 0])).foldl Uevent.read .empty) := by
  obtain ⟨rest, hrest⟩ := fields_append datagram
  have hfuel : (fields (datagram ++ [0, 0])).length < (datagram ++ [0, 0]).length := by
    have hlen : (datagram ++ [0, 0]).length =
        ((fields (datagram ++ [0, 0])).flatMap (· ++ [0])).length + (rest.length + 1) :=
      (congrArg List.length hrest).trans List.length_append
    have hle := length_le_flatMap (fields (datagram ++ [0, 0]))
    omega
  have hparse := parseFields_fields .empty rest (fun f hf => mem_fields hf) hfuel
  rw [← hrest] at hparse
  exact hparse

theorem parseEvent_ok (datagram : List Byte) (uevent : Uevent) :
    ∃ u, parseEvent (datagram ++ [0, 0]) uevent = .ok u :=
  ⟨_, parseEvent_eq_foldl datagram uevent⟩

/-! ### What the fields say -/

theorem lastValue?_cons (start field : List Byte) (fs : List (List Byte)) :
    lastValue? start (field :: fs) =
      if start.isPrefixOf field then some ((lastValue? start fs).getD (field.drop start.length))
      else lastValue? start fs := by
  unfold lastValue?
  by_cases hstart : start.isPrefixOf field = true
  · rw [List.filter_cons_of_pos hstart, List.getLast?_cons, if_pos hstart]
    cases (fs.filter (start.isPrefixOf ·)).getLast? <;> rfl
  · rw [List.filter_cons_of_neg hstart, if_neg hstart]

/-- No field is of both kinds. -/
theorem not_isAction_of_isPath (h : (bytes "DEVPATH=").isPrefixOf field = true) :
    ¬ (bytes "ACTION=").isPrefixOf field = true := by
  intro haction
  have hpath : bytes "DEVPATH=" <+: field := List.isPrefixOf_iff_prefix.mp h
  have haction : bytes "ACTION=" <+: field := List.isPrefixOf_iff_prefix.mp haction
  have hboth : bytes "ACTION=" <+: bytes "DEVPATH=" :=
    List.prefix_of_prefix_length_le haction hpath (by decide)
  revert hboth
  decide

/-- Of the fields that begin alike the last one counts. -/
theorem foldl_read (uevent : Uevent) (fs : List (List Byte)) :
    fs.foldl Uevent.read uevent =
      ⟨(lastValue? (bytes "ACTION=") fs).getD uevent.action,
        (lastValue? (bytes "DEVPATH=") fs).getD uevent.path⟩ := by
  induction fs generalizing uevent with
  | nil => rfl
  | cons field fs ih =>
      rw [List.foldl_cons, ih, lastValue?_cons, lastValue?_cons, Uevent.read]
      by_cases hpath : (bytes "DEVPATH=").isPrefixOf field = true
      · rw [if_neg (not_isAction_of_isPath hpath), if_neg (not_isAction_of_isPath hpath),
          if_pos hpath, if_pos hpath]
        rfl
      · rw [if_neg hpath, if_neg hpath]
        split <;> rfl

/-- **`ParseEvent` stays within the message**, with the two NUL bytes behind it, **and finds what
its fields say**: those before the first empty one, and of the fields that begin alike the last. -/
theorem parseEvent_exact (datagram : List Byte) (uevent : Uevent) :
    parseEvent (datagram ++ [0, 0]) uevent =
      .ok ⟨lastValue (bytes "ACTION=") (fields (datagram ++ [0, 0])),
        lastValue (bytes "DEVPATH=") (fields (datagram ++ [0, 0]))⟩ := by
  rw [parseEvent_eq_foldl, foldl_read]
  rfl

example : parseEvent (bytes "add@/a\x00ACTION=add\x00DEVPATH=/a\x00ACTION=" ++ [0, 0]) .empty =
    .ok ⟨[], bytes "/a"⟩ := by decide

/-- What was in the `Uevent` before does not matter. -/
theorem parseEvent_eq_empty (msg : List Byte) (uevent : Uevent) :
    parseEvent msg uevent = parseEvent msg .empty := rfl

end Reading

end VendorRs.TriStateKeyDaemon
