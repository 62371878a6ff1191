import VendorRs.Lib.Runs
import VendorRs.TriStateKeyDaemon.UeventListener

/-!
# The tri-state key daemon

`main` has a callback run for each uevent: if it says that the slider has moved, the callback reads
where to, and issues the commands for that position. `Poll` waits for the socket, and reads until
nothing is left in it, all into one `Uevent` object.

`ReadUevent` also returns `true` for a datagram that it has discarded, having written nothing. The
callback is then run with what the object still holds, the uevent before, and the commands are
issued once more. `handled_once_iff` says that this is the only way in which the commands can come
to differ from those of the uevents received, whatever arrives and whenever.
-/

namespace VendorRs.TriStateKeyDaemon

open Java Runs

/-! ## The callback -/

/-- An optional sign, and what is behind it. -/
def cutSign : List Char → Int × List Char
  | '-' :: cs => (-1, cs)
  | '+' :: cs => (1, cs)
  | cs => (1, cs)

/-- `std::stoi`: blanks, a sign, at least one digit, and whatever follows. -/
def stoi (line : String) : Except Fault Int :=
  let (sign, text) := cutSign
    (line.toList.dropWhile fun c => c = ' ' ∨ ('\t' ≤ c ∧ c ≤ '\r'))
  let digits := text.takeWhile Char.isDigit
  let n := sign * Nat.ofDigitChars 10 digits 0
  if digits.isEmpty then .error .invalidArgument
  else if -2 ^ 31 ≤ n ∧ n < 2 ^ 31 then .ok n
  else .error .outOfRange

/-- The lines `std::getline` returns one after the other. -/
def getlines (content : String) : List String :=
  let parts := content.toList.splitOn '\n'
  (if parts.getLast? = some [] then parts.dropLast else parts).map String.ofList

/-- The commands for a position of the slider: up, middle, down. -/
def stateCommands (state : Int) : List String :=
  if state = 1 then
    ["setprop sys.slider_up.vibrate 1",
      "service call audio 9 i32 3 i32 -100 i32 0",
      "service call audio 40 i32 0 s16 \"shell\""]
  else if state = 2 then
    ["setprop sys.slider_middle.vibrate 1",
      "service call audio 9 i32 3 i32 100 i32 0",
      "service call audio 40 i32 1 s16 \"shell\""]
  else if state = 3 then
    ["service call audio 9 i32 3 i32 100 i32 0",
      "service call audio 40 i32 2 s16 \"shell\""]
  else []

/-- The position of the slider: the last line of the state node, whose content is `none` if it
cannot be opened. -/
def readState : Option String → Except Fault Int
  | some content => (getlines content).foldlM (fun _ line => stoi line) 0
  | none => .ok 0

/-- What the callback passes to `system` when the slider has moved. -/
def audioCommands (node : Option String) : Except Fault (List String) := do
  let state ← readState node
  return stateCommands state

/-- The uevent is the slider's. -/
def Uevent.isSlider (uevent : Uevent) : Bool :=
  uevent.action = bytes "change" && uevent.path = bytes "/devices/virtual/switch/tri-state-key"

/-- The callback of `main`. -/
def callback (uevent : Uevent) (node : Option String) : Except Fault (List String) :=
  if uevent.isSlider then audioCommands node else .ok []

/-! ## The daemon and its socket -/

structure State where
  /-- The datagrams in the socket, oldest first. -/
  pending : List (List Byte)
  /-- The `Uevent` of the loop that empties the socket, `none` while in `poll`. -/
  uevent : Option Uevent
  /-- The commands passed to `system`. -/
  commands : List String
  /-- For the theorems only: the commands that the datagrams read so far call for. -/
  calledFor : List String
  deriving DecidableEq, Repr

def State.started : State := ⟨[], none, [], []⟩

/-- The datagram fits into the buffer, and what it says is that the slider has moved. -/
def slides (datagram : List Byte) : Bool :=
  datagram.length < ueventMsgLen &&
    match parseEvent (datagram ++ [0, 0]) .empty with
    | .ok uevent => uevent.isSlider
    | .error _ => false

/-- The commands that a datagram calls for. -/
def callsFor (datagram : List Byte) (node : Option String) : List String :=
  match slides datagram, audioCommands node with
  | true, .ok commands => commands
  | _, _ => []

/-- One round of the inner loop of `Poll` with the next datagram: `ReadUevent` and, if it returns
`true`, the callback. -/
def readNext (s : State) (datagram : List Byte) (uevent : Uevent) (node : Option String) :
    Except Fault State := do
  let (more, uevent) ← readUevent datagram uevent
  let s := { s with calledFor := s.calledFor ++ callsFor datagram node }
  if more then
    let commands ← callback uevent node
    return { s with uevent := some uevent, commands := s.commands ++ commands }
  else
    return { s with uevent := none }

inductive Event where
  /-- The kernel sends a datagram. -/
  | arrives (datagram : List Byte)
  /-- The daemon's turn, the state node having this content if it is read. -/
  | turn (node : Option String)
  deriving DecidableEq, Repr

/-- The datagrams read in one wake-up are those that are there when the daemon comes to read them,
so any grouping of them is a run. -/
def step (s : State) : Event → Except Fault State
  | .arrives datagram => .ok { s with pending := s.pending ++ [datagram] }
  | .turn node =>
      match s.uevent, s.pending with
      -- `poll` does not return
      | none, [] => .ok s
      | none, _ :: _ => .ok { s with uevent := some .empty }
      -- `EAGAIN`: back to `poll`
      | some _, [] => .ok { s with uevent := none }
      | some uevent, datagram :: pending =>
          readNext { s with pending := pending } datagram uevent node

/-! ## What should hold, and when it does -/

/-- After the step the commands issued are those that the datagrams call for, and the step has
stayed within the message. -/
def HandledOnce (s : State) (e : Event) : Prop :=
  (∀ s', step s e = .ok s' → s'.commands = s'.calledFor) ∧ step s e ≠ .error .readPastEnd

instance (s : State) (e : Event) : Decidable (HandledOnce s e) :=
  have : Decidable (∀ s', step s e = .ok s' → s'.commands = s'.calledFor) :=
    decidableForallOk (step s e) fun s' => s'.commands = s'.calledFor
  match h : step s e with
  | .ok _ => decidable_of_iff (∀ s', step s e = .ok s' → s'.commands = s'.calledFor)
      (by simp [HandledOnce, h])
  | .error x => decidable_of_iff (x ≠ .readPastEnd) (by simp [HandledOnce, h])

/-- No datagram is discarded while the object still holds a move of the slider, unless the state
node gives nothing to do. -/
def NotStale (s : State) : Event → Prop
  | .arrives _ => True
  | .turn node => ∀ uevent ∈ s.uevent, ∀ datagram ∈ s.pending.head?,
      ueventMsgLen ≤ datagram.length → uevent.isSlider = true →
      ∀ commands, audioCommands node = .ok commands → commands = []

variable {s s' : State} {e : Event} {datagram : List Byte} {uevent : Uevent}
  {node : Option String}

/-! ## Reading one datagram -/

theorem readUevent_discarded (h : ueventMsgLen ≤ datagram.length) :
    readUevent datagram uevent = .ok (true, uevent) := by
  have hlen : (datagram.take ueventMsgLen).length = ueventMsgLen := by
    rw [List.length_take, Nat.min_eq_left h]
  unfold readUevent
  dsimp only
  rw [hlen, if_neg (by decide), if_pos le_rfl]

/-- A datagram that fits is parsed, and says what `slides` takes from it. -/
theorem readUevent_parsed (uevent : Uevent) (hne : datagram ≠ [])
    (h : datagram.length < ueventMsgLen) :
    ∃ uevent', readUevent datagram uevent = .ok (true, uevent') ∧
      slides datagram = uevent'.isSlider := by
  obtain ⟨uevent', hparse⟩ := parseEvent_ok datagram uevent
  refine ⟨uevent', ?_, ?_⟩
  · unfold readUevent
    dsimp only
    rw [List.take_of_length_le h.le, if_neg (by simpa using hne), if_neg (Nat.not_le.mpr h),
      hparse]
    rfl
  · rw [parseEvent_eq_empty] at hparse
    rw [slides, decide_eq_true h, hparse, Bool.true_and]

/-- A datagram that fits is handled as it calls for. -/
theorem callback_of_slides (node : Option String) (h : slides datagram = uevent.isSlider) :
    callback uevent node = .ok (callsFor datagram node) ∨
      (∃ x, callback uevent node = .error x ∧ audioCommands node = .error x) := by
  unfold callback callsFor
  rw [h]
  cases uevent.isSlider with
  | false => exact .inl rfl
  | true =>
      cases haudio : audioCommands node with
      | ok commands => exact .inl rfl
      | error x => exact .inr ⟨x, rfl, rfl⟩

theorem stoi_error {line : String} {x : Fault} (h : stoi line = .error x) : x ≠ .readPastEnd := by
  unfold stoi at h
  dsimp only at h
  by_cases hdigits : ((cutSign (line.toList.dropWhile fun c =>
      c = ' ' ∨ ('\t' ≤ c ∧ c ≤ '\r'))).2.takeWhile Char.isDigit).isEmpty = true
  · rw [if_pos hdigits] at h
    cases h
    decide
  · rw [if_neg hdigits] at h
    split at h
    · cases h
    · cases h
      decide

theorem readState_error {x : Fault} (h : readState node = .error x) : x ≠ .readPastEnd := by
  cases node with
  | none => cases h
  | some content =>
      change (getlines content).foldlM (fun _ line => stoi line) 0 = .error x at h
      generalize getlines content = lines at h
      generalize (0 : Int) = state at h
      induction lines generalizing state with
      | nil => cases h
      | cons line lines ih =>
          rw [List.foldlM_cons] at h
          rcases bind_eq_error.mp h with h | ⟨state', -, h⟩
          · exact stoi_error h
          · exact ih state' h

theorem audioCommands_error {x : Fault} (h : audioCommands node = .error x) :
    x ≠ .readPastEnd := by
  rcases bind_eq_error.mp h with h | ⟨state, -, h⟩
  · exact readState_error h
  · cases h

theorem slides_discarded (h : ueventMsgLen ≤ datagram.length) : slides datagram = false := by
  rw [slides, decide_eq_false (Nat.not_lt.mpr h), Bool.false_and]

/-- A datagram that is not discarded: what is issued is what it calls for. -/
theorem readNext_of_lt (s : State) (uevent : Uevent) (node : Option String)
    (h : datagram.length < ueventMsgLen) :
    (∃ s', readNext s datagram uevent node = .ok s' ∧
      ∃ commands, s'.commands = s.commands ++ commands ∧ s'.calledFor = s.calledFor ++ commands) ∨
    ∃ x, readNext s datagram uevent node = .error x ∧ x ≠ .readPastEnd := by
  by_cases hnil : datagram = []
  · subst hnil
    left
    refine ⟨_, rfl, [], ?_, ?_⟩
    · rw [List.append_nil]
    · rfl
  · obtain ⟨uevent', hread, hslides⟩ := readUevent_parsed uevent hnil h
    unfold readNext
    rw [hread, ok_bind]
    dsimp only
    rw [if_pos rfl]
    rcases callback_of_slides node hslides with hcall | ⟨x, hcall, hx⟩
    · rw [hcall]
      exact .inl ⟨_, rfl, callsFor datagram node, rfl, rfl⟩
    · rw [hcall]
      exact .inr ⟨x, rfl, audioCommands_error hx⟩

/-- A discarded datagram: it calls for nothing, and the callback runs on what was there before. -/
theorem readNext_of_le (h : ueventMsgLen ≤ datagram.length) :
    readNext s datagram uevent node =
      (callback uevent node).map fun commands =>
        { s with uevent := some uevent, commands := s.commands ++ commands } := by
  have hnone : callsFor datagram node = [] := by
    unfold callsFor
    rw [slides_discarded h]
  unfold readNext
  rw [readUevent_discarded h, ok_bind]
  dsimp only
  rw [if_pos rfl, hnone, List.append_nil]
  cases callback uevent node <;> rfl

/-! ## Runs -/

/-- One step, all commands having been called for so far. -/
theorem handledOnce_iff (h : s.commands = s.calledFor) (e : Event) :
    HandledOnce s e ↔ NotStale s e := by
  cases e with
  | arrives datagram =>
      refine iff_of_true ⟨?_, nofun⟩ trivial
      intro s' hs'
      cases hs'
      exact h
  | turn node =>
      cases huevent : s.uevent with
      | none =>
          refine iff_of_true ?_ ?_
          · cases hpending : s.pending with
            | nil => simp [HandledOnce, step, huevent, hpending, h]
            | cons datagram pending => simp [HandledOnce, step, huevent, hpending, h]
          · simp [NotStale, huevent]
      | some uevent =>
          cases hpending : s.pending with
          | nil =>
              refine iff_of_true ?_ ?_
              · simp [HandledOnce, step, huevent, hpending, h]
              · simp [NotStale, hpending]
          | cons datagram pending =>
              have hstep : step s (.turn node) =
                  readNext { s with pending := pending } datagram uevent node := by
                simp only [step, huevent, hpending]
              have hstale : NotStale s (.turn node) ↔ (ueventMsgLen ≤ datagram.length →
                  uevent.isSlider = true →
                    ∀ commands, audioCommands node = .ok commands → commands = []) := by
                simp [NotStale, huevent, hpending]
              rw [HandledOnce, hstep, hstale]
              rcases Nat.lt_or_ge datagram.length ueventMsgLen with hlt | hge
              · -- what it calls for is added on both sides
                refine iff_of_true ?_ fun hge => absurd hge (Nat.not_le.mpr hlt)
                rcases readNext_of_lt { s with pending := pending } uevent node hlt with
                  ⟨s', hs', commands, hcommands, hcalled⟩ | ⟨x, hx, hne⟩
                · rw [hs']
                  refine ⟨?_, nofun⟩
                  intro s₁ hs₁
                  cases hs₁
                  rw [hcommands, hcalled, h]
                · rw [hx]
                  exact ⟨nofun, fun heq => hne (Except.error.inj heq)⟩
              · rw [readNext_of_le hge]
                unfold callback
                cases uevent.isSlider with
                | false => simp [Except.map, hge, h]
                | true =>
                    cases haudio : audioCommands node with
                    | error x => simp [Except.map, hge, audioCommands_error haudio]
                    | ok commands => simp [Except.map, hge, h]

/-- **Each move of the slider is handled once**, in every run, exactly as long as nothing is
discarded right behind one. -/
theorem handled_once_iff (evs : List Event) :
    EveryStep step HandledOnce .started evs ↔ EveryStep step NotStale .started evs := by
  apply everyStep_iff (P := fun s => s.commands = s.calledFor) (B := fun _ _ => True)
  · intro s e s' h _ hgood hstep
    exact ((handledOnce_iff h e).mpr hgood).1 s' hstep
  · intro s e h _
    exact handledOnce_iff h e
  · rfl
  · exact everyStep_true

/-- The uevent of a move of the slider. -/
def sliderDatagram : List Byte :=
  bytes "change@/devices/virtual/switch/tri-state-key" ++ [0] ++ bytes "ACTION=change" ++ [0] ++
    bytes "DEVPATH=/devices/virtual/switch/tri-state-key" ++ [0]

/-- A move of the slider and a datagram that fills the buffer are in the socket together. -/
theorem commands_repeated :
    ¬ EveryStep step HandledOnce .started
      [.arrives sliderDatagram, .arrives (List.replicate 2048 1), .turn none, .turn (some "1\n"),
        .turn (some "1\n")] := by
  decide +kernel

end VendorRs.TriStateKeyDaemon
