import VendorRs.Lib.Runs
import VendorRs.LightDaemon.Wire

/-!
# The service and the daemon, side by side

`setColor` writes four properties one after the other and then asks `init` to start the daemon; the
daemon reads them one after the other, in another order, writes the nodes and exits. `init` ignores
the request while an instance is still running. Nothing else orders the two, so the steps of the
calls and of the daemon may come in any order; a run is a list of events that says who moves.

`quiet_shows_last_call` is what can be relied on. A request that finds an instance running is
dropped, and that is harmless exactly if the instance will write what the properties say at that
moment. If every dropped request is of that kind, then whenever all calls are done and no instance
runs, the nodes show the last call.
-/

namespace VendorRs.LightDaemon

open LedLightManager Runs

/-! ## The two processes -/

/-- Where a `setColor` call with the properties `p` is: what its next step does. -/
inductive Writer where
  | idle
  | blink (p : LightProps)
  | red (p : LightProps)
  | green (p : LightProps)
  | blue (p : LightProps)
  | start (p : LightProps)
  deriving DecidableEq, Repr

/-- Where the daemon is, and what it has read so far. -/
inductive Daemon where
  | started
  | gotRed (red_light : String)
  | gotBlue (red_light blue_light : String)
  | gotGreen (red_light blue_light green_light : String)
  | writing (read : LightProps) (left : List (Node × String))
  deriving DecidableEq, Repr

structure Sys where
  props : LightProps
  writer : Writer
  /-- The running instance, if there is one. -/
  daemon : Option Daemon
  /-- Everything ever written to the nodes. -/
  written : List (Node × String)
  /-- Ghost: what the latest call encodes. -/
  last : Option LightProps
  deriving DecidableEq, Repr

/-- The device before the first call, whatever the properties are. -/
def Sys.boot (props : LightProps) : Sys := ⟨props, .idle, none, [], none⟩

inductive Event where
  | setColor (c : Command)
  | writer
  | daemon
  deriving DecidableEq, Repr

/-- Why an event is no step. -/
inductive Stuck where
  /-- The process has nothing to do, or `setColor` has not returned from the call before. -/
  | notEnabled
  /-- The daemon uses a token that is not there. -/
  | indeterminate
  deriving DecidableEq, Repr

/-- The next step of the `setColor` call under way. -/
def writerStep (s : Sys) : Except Stuck Sys :=
  match s.writer with
  | .idle => .error .notEnabled
  | .blink p =>
      .ok { s with props := { s.props with blinkLight := p.blinkLight }, writer := .red p }
  | .red p => .ok { s with props := { s.props with redLight := p.redLight }, writer := .green p }
  | .green p =>
      .ok { s with props := { s.props with greenLight := p.greenLight }, writer := .blue p }
  | .blue p => .ok { s with props := { s.props with blueLight := p.blueLight }, writer := .start p }
  -- `init` starts an instance unless there is one
  | .start _ => .ok { s with daemon := some (s.daemon.getD .started), writer := .idle }

/-- The next step of the running instance. -/
def daemonStep (s : Sys) : Except Stuck Sys :=
  match s.daemon with
  | none => .error .notEnabled
  | some .started => .ok { s with daemon := some (.gotRed s.props.redLight) }
  | some (.gotRed red) => .ok { s with daemon := some (.gotBlue red s.props.blueLight) }
  | some (.gotBlue red blue) =>
      .ok { s with daemon := some (.gotGreen red blue s.props.greenLight) }
  | some (.gotGreen red blue green) =>
      match writes ⟨s.props.blinkLight, red, green, blue⟩ with
      | some ws =>
          .ok { s with daemon := some (.writing ⟨s.props.blinkLight, red, green, blue⟩ ws) }
      | none => .error .indeterminate
  | some (.writing read (w :: left)) =>
      .ok { s with daemon := some (.writing read left), written := s.written ++ [w] }
  | some (.writing _ []) => .ok { s with daemon := none }

/-- One event. A command that does not parse ends the call before anything is written. -/
def step (s : Sys) : Event → Except Stuck Sys
  | .setColor c =>
      if s.writer = .idle then
        match c.encode with
        | .ok p => .ok { s with writer := .blink p, last := some p }
        | .error _ => .ok s
      else .error .notEnabled
  | .writer => writerStep s
  | .daemon => daemonStep s

/-! ## What should hold, and when it does -/

/-- The value a node got last. -/
def lastWrite (log : List (Node × String)) (node : Node) : Option String :=
  (log.reverse.find? (·.1 = node)).map Prod.snd

/-- Every node that the properties say something about shows it. -/
def Shows (log : List (Node × String)) (p : LightProps) : Prop :=
  match writes p with
  | some ws => ∀ w ∈ ws, lastWrite log w.1 = lastWrite ws w.1
  | none => False

/-- Once all calls are done and no instance runs, the nodes show the last call. -/
def Sys.Settled (s : Sys) : Prop :=
  s.writer = .idle → s.daemon = none → ∀ p ∈ s.last, Shows s.written p

/-- The step leads to a settled state, and the daemon does not use what it has not read. -/
def StaysSettled (s : Sys) (e : Event) : Prop :=
  match step s e with
  | .ok s' => s'.Settled
  | .error x => x ≠ .indeterminate

/-- What the instance will have read, if the properties stay as they are. -/
def Daemon.seen (props : LightProps) : Daemon → LightProps
  | .started => props
  | .gotRed red => { props with redLight := red }
  | .gotBlue red blue => { props with redLight := red, blueLight := blue }
  | .gotGreen red blue green =>
      { props with redLight := red, blueLight := blue, greenLight := green }
  | .writing read _ => read

/-- If the writer is about to request a start, it finds no instance running, or one that will write
what the properties say. -/
def Sys.HeedsStart (s : Sys) : Prop :=
  match s.writer, s.daemon with
  | .start _, some d => writes (d.seen s.props) = writes s.props
  | _, _ => True

def StartHeeded (s : Sys) : Event → Prop
  | .writer => s.HeedsStart
  | .setColor _ | .daemon => True

instance (log : List (Node × String)) (p : LightProps) : Decidable (Shows log p) := by
  unfold Shows
  split <;> infer_instance

instance (s : Sys) : Decidable s.Settled := by
  unfold Sys.Settled
  infer_instance

instance (s : Sys) (e : Event) : Decidable (StaysSettled s e) := by
  unfold StaysSettled
  split <;> infer_instance

instance (s : Sys) : Decidable s.HeedsStart := by
  unfold Sys.HeedsStart
  split <;> infer_instance

instance (s : Sys) : ∀ e, Decidable (StartHeeded s e)
  | .writer => inferInstanceAs (Decidable s.HeedsStart)
  | .setColor _ | .daemon => inferInstanceAs (Decidable True)

/-! ## Properties the daemon can read -/

/-- A value of the kind the service writes. -/
structure Valid (p : LightProps) : Prop where
  blink : p.blinkLight = "0" ∨ p.blinkLight = "1"
  red : (config p.redLight).length = 6
  green : (config p.greenLight).length = 6
  blue : (config p.blueLight).length = 6

theorem valid_encode {c : Command} {p : LightProps} (h : c.encode = .ok p) : Valid p := by
  simp only [Command.encode, Java.bind_eq_ok] at h
  obtain ⟨color, -, onMs, -, offMs, -, h⟩ := h
  obtain rfl : lightProps c.blink color onMs offMs = p := Except.ok.inj h
  refine ⟨?_, ?_, ?_, ?_⟩
  · show (if c.blink then "1" else "0") = "0" ∨ (if c.blink then "1" else "0") = "1"
    cases c.blink <;> simp
  all_goals
    exact congrArg List.length (config_lightValue _ _ onMs offMs)

theorem exists_six {α : Type} {l : List α} (h : l.length = 6) :
    ∃ a b c d e f, l = [a, b, c, d, e, f] := by
  match l, h with
  | [a, b, c, d, e, f], _ => exact ⟨a, b, c, d, e, f, rfl⟩

/-- The daemon finds every token it uses. -/
theorem Valid.writes {p : LightProps} (h : Valid p) : ∃ ws, writes p = some ws := by
  obtain ⟨r₀, r₁, r₂, r₃, r₄, r₅, hred⟩ := exists_six h.red
  obtain ⟨g₀, g₁, g₂, g₃, g₄, g₅, hgreen⟩ := exists_six h.green
  obtain ⟨b₀, b₁, b₂, b₃, b₄, b₅, hblue⟩ := exists_six h.blue
  rw [LightDaemon.writes, hred, hgreen, hblue]
  rcases h.blink with hblink | hblink
  · rw [hblink]
    exact ⟨_, rfl⟩
  · rw [hblink]
    exact ⟨_, rfl⟩

theorem lastWrite_append {ws : List (Node × String)} (pre : List (Node × String))
    {w : Node × String} (hw : w ∈ ws) : lastWrite (pre ++ ws) w.1 = lastWrite ws w.1 := by
  have hsome : (ws.reverse.find? (·.1 = w.1)).isSome := by
    rw [List.find?_isSome]
    exact ⟨w, List.mem_reverse.mpr hw, by simp⟩
  obtain ⟨w', hw'⟩ := Option.isSome_iff_exists.mp hsome
  rw [lastWrite, lastWrite, List.reverse_append, List.find?_append, hw', Option.some_or]

/-- Nodes written to the end show what was written. -/
theorem shows_append {ws pre : List (Node × String)} {p : LightProps} (h : writes p = some ws) :
    Shows (pre ++ ws) p := by
  rw [Shows, h]
  intro w hw
  exact lastWrite_append pre hw

/-! ## The invariant -/

/-- The call under way encodes `p`, and the properties it has written so far are there. -/
def Writer.Agrees (props : LightProps) (last : Option LightProps) : Writer → Prop
  | .idle => ∀ p ∈ last, props = p
  | .blink p => last = some p
  | .red p => last = some p ∧ props.blinkLight = p.blinkLight
  | .green p => last = some p ∧ props.blinkLight = p.blinkLight ∧ props.redLight = p.redLight
  | .blue p => last = some p ∧ props.blinkLight = p.blinkLight ∧ props.redLight = p.redLight ∧
      props.greenLight = p.greenLight
  | .start p => last = some p ∧ props = p

/-- An instance that is writing has written the beginning of what it is to write, and nothing came
in between. -/
def Daemon.OnLog (log : List (Node × String)) : Daemon → Prop
  | .writing read left => ∃ pre done, log = pre ++ done ∧ writes read = some (done ++ left)
  | _ => True

structure Inv (s : Sys) : Prop where
  valid : ∀ p ∈ s.last, Valid p
  agrees : s.writer.Agrees s.props s.last
  /-- What a running instance has read and will read is valid. -/
  seen_valid : ∀ d ∈ s.daemon, Valid (d.seen s.props)
  on_log : ∀ d ∈ s.daemon, d.OnLog s.written
  /-- Between calls, a running instance will write what the last call encodes. -/
  seen_last : s.writer = .idle → ∀ p ∈ s.last, ∀ d ∈ s.daemon, writes (d.seen s.props) = writes p
  settled : s.Settled

variable {s s' : Sys} {e : Event}

/-- Before the first call there is nothing to agree with. -/
theorem inv_boot (props : LightProps) : Inv (.boot props) := by
  constructor <;> simp [Sys.boot, Writer.Agrees, Sys.Settled]

/-- A property changed to a valid value leaves what the daemon will have read valid. -/
theorem Daemon.seen_valid_set {props props' p : LightProps} (d : Daemon) (hp : Valid p)
    (h : Valid (d.seen props))
    (hblink : props'.blinkLight = props.blinkLight ∨ props'.blinkLight = p.blinkLight)
    (hred : props'.redLight = props.redLight ∨ props'.redLight = p.redLight)
    (hgreen : props'.greenLight = props.greenLight ∨ props'.greenLight = p.greenLight)
    (hblue : props'.blueLight = props.blueLight ∨ props'.blueLight = p.blueLight) :
    Valid (d.seen props') := by
  obtain ⟨h₁, h₂, h₃, h₄⟩ := h
  obtain ⟨p₁, p₂, p₃, p₄⟩ := hp
  cases d <;> simp only [Daemon.seen] at * <;> constructor <;> grind

/-! ## Steps of a call -/

/-- Writing one property of the call under way. -/
theorem Inv.setProp {p props' : LightProps} {w : Writer} (h : Inv s) (hlast : s.last = some p)
    (hw : w ≠ .idle) (hagrees : w.Agrees props' s.last)
    (hblink : props'.blinkLight = s.props.blinkLight ∨ props'.blinkLight = p.blinkLight)
    (hred : props'.redLight = s.props.redLight ∨ props'.redLight = p.redLight)
    (hgreen : props'.greenLight = s.props.greenLight ∨ props'.greenLight = p.greenLight)
    (hblue : props'.blueLight = s.props.blueLight ∨ props'.blueLight = p.blueLight) :
    Inv { s with props := props', writer := w } :=
  { h with
    agrees := hagrees
    seen_valid := by
      intro d hd
      exact d.seen_valid_set (h.valid p hlast) (h.seen_valid d hd) hblink hred hgreen hblue
    seen_last := by
      intro hidle
      exact absurd hidle hw
    settled := by
      intro hidle
      exact absurd hidle hw }

/-- Requesting a start, when the request is heeded. -/
theorem Inv.start {p : LightProps} (h : Inv s) (hwriter : s.writer = .start p)
    (hheeds : s.HeedsStart) :
    Inv { s with daemon := some (s.daemon.getD .started), writer := .idle } := by
  have hagrees := h.agrees
  rw [hwriter] at hagrees
  obtain ⟨hlast, hprops⟩ := hagrees
  have hseen : writes ((s.daemon.getD .started).seen s.props) = writes p := by
    cases hd : s.daemon with
    | none => exact congrArg writes hprops
    | some d =>
        rw [Sys.HeedsStart, hwriter, hd] at hheeds
        rw [← hprops]
        exact hheeds
  exact { h with
    agrees := by
      intro q hq
      rw [hlast] at hq
      rw [hprops, Option.some.inj hq]
    seen_valid := by
      rintro d ⟨⟩
      cases hd : s.daemon with
      | none =>
          show Valid s.props
          rw [hprops]
          exact h.valid p hlast
      | some d => exact h.seen_valid d hd
    on_log := by
      rintro d ⟨⟩
      cases hd : s.daemon with
      | none => trivial
      | some d => exact h.on_log d hd
    seen_last := by
      rintro - q hq d ⟨⟩
      rw [hlast] at hq
      rw [← Option.some.inj hq]
      exact hseen
    settled := by
      intro _ hnone
      cases hnone }

theorem Inv.writerStep (h : Inv s) (hheeds : s.HeedsStart) (hok : writerStep s = .ok s') :
    Inv s' := by
  have hagrees := h.agrees
  unfold LightDaemon.writerStep at hok
  cases hwriter : s.writer with
  | idle => rw [hwriter] at hok; cases hok
  | blink p =>
      rw [hwriter] at hok hagrees
      cases hok
      exact h.setProp hagrees (by simp) ⟨hagrees, rfl⟩ (.inr rfl) (.inl rfl) (.inl rfl) (.inl rfl)
  | red p =>
      rw [hwriter] at hok hagrees
      cases hok
      obtain ⟨hlast, hblink⟩ := hagrees
      exact h.setProp hlast (by simp) ⟨hlast, hblink, rfl⟩ (.inl rfl) (.inr rfl) (.inl rfl)
        (.inl rfl)
  | green p =>
      rw [hwriter] at hok hagrees
      cases hok
      obtain ⟨hlast, hblink, hred⟩ := hagrees
      exact h.setProp hlast (by simp) ⟨hlast, hblink, hred, rfl⟩ (.inl rfl) (.inl rfl) (.inr rfl)
        (.inl rfl)
  | blue p =>
      rw [hwriter] at hok hagrees
      cases hok
      obtain ⟨hlast, hblink, hred, hgreen⟩ := hagrees
      refine h.setProp hlast (by simp) ⟨hlast, ?_⟩ (.inl rfl) (.inl rfl) (.inl rfl) (.inr rfl)
      show LightProps.mk _ _ _ _ = p
      rw [hblink, hred, hgreen]
  | start p =>
      rw [hwriter] at hok
      cases hok
      exact h.start hwriter hheeds

/-! ## Steps of the daemon -/

/-- A step of the instance that writes nothing: what it will have read stays the same. -/
theorem Inv.read {d d' : Daemon} (h : Inv s) (hd : s.daemon = some d)
    (hseen : d'.seen s.props = d.seen s.props) (hlog : d'.OnLog s.written) :
    Inv { s with daemon := some d' } :=
  { h with
    seen_valid := by
      rintro _ ⟨⟩
      rw [hseen]
      exact h.seen_valid d hd
    on_log := by
      rintro _ ⟨⟩
      exact hlog
    seen_last := by
      rintro hidle p hp _ ⟨⟩
      show writes (d'.seen s.props) = _
      rw [hseen]
      exact h.seen_last hidle p hp d hd
    settled := by
      intro _ hnone
      cases hnone }

/-- The instance writes a node. -/
theorem Inv.write {read : LightProps} {w : Node × String} {left : List (Node × String)}
    (h : Inv s) (hd : s.daemon = some (.writing read (w :: left))) :
    Inv { s with daemon := some (.writing read left), written := s.written ++ [w] } :=
  { h with
    seen_valid := by
      rintro _ ⟨⟩
      exact h.seen_valid (.writing read (w :: left)) hd
    on_log := by
      -- what is written moves from what is left to what is done
      rintro _ ⟨⟩
      obtain ⟨pre, done, hpre, hws⟩ := h.on_log _ hd
      refine ⟨pre, done ++ [w], ?_, ?_⟩
      · show s.written ++ [w] = _
        rw [hpre, List.append_assoc]
      · rw [hws, List.append_assoc, List.singleton_append]
    seen_last := by
      rintro hidle p hp _ ⟨⟩
      exact h.seen_last hidle p hp (.writing read (w :: left)) hd
    settled := by
      intro _ hnone
      cases hnone }

/-- The instance exits: between calls, the nodes show the last one. -/
theorem Inv.exit {read : LightProps} (h : Inv s) (hd : s.daemon = some (.writing read [])) :
    Inv { s with daemon := none } :=
  { h with
    seen_valid := by
      intro d hnone
      cases hnone
    on_log := by
      intro d hnone
      cases hnone
    seen_last := by
      intro _ p _ d hnone
      cases hnone
    settled := by
      rintro hidle - p hp
      obtain ⟨pre, done, hpre, hws⟩ := h.on_log _ hd
      have hsame : writes read = writes p := h.seen_last hidle p hp (.writing read []) hd
      show Shows s.written p
      rw [hpre]
      apply shows_append
      rw [← hsame, hws, List.append_nil] }

/-- A step of the instance returns in a state with the invariant; it never lacks a token. -/
theorem Inv.daemonStep {d : Daemon} (h : Inv s) (hd : s.daemon = some d) :
    ∃ s', daemonStep s = .ok s' ∧ Inv s' := by
  have hvalid := h.seen_valid d hd
  unfold LightDaemon.daemonStep
  rw [hd]
  match d with
  | .started => exact ⟨_, rfl, h.read hd rfl trivial⟩
  | .gotRed red => exact ⟨_, rfl, h.read hd rfl trivial⟩
  | .gotBlue red blue => exact ⟨_, rfl, h.read hd rfl trivial⟩
  | .gotGreen red blue green =>
      -- the blink flag is the last one read; from here on the properties do not matter
      obtain ⟨ws, hws⟩ := hvalid.writes
      have hws' : writes ⟨s.props.blinkLight, red, green, blue⟩ = some ws := hws
      simp only [hws']
      exact ⟨_, rfl, h.read hd rfl ⟨s.written, [], by simp, by simpa using hws'⟩⟩
  | .writing read (w :: left) => exact ⟨_, rfl, h.write hd⟩
  | .writing read [] => exact ⟨_, rfl, h.exit hd⟩

/-! ## Whole runs -/

theorem Inv.setColor {c : Command} (h : Inv s) (hok : step s (.setColor c) = .ok s') : Inv s' := by
  simp only [step] at hok
  split at hok
  · split at hok
    · next p hp =>
        cases hok
        exact { h with
          valid := by
            rintro _ ⟨⟩
            exact valid_encode hp
          agrees := rfl
          seen_last := by
            intro hidle
            cases hidle
          settled := by
            intro hidle
            cases hidle }
    · -- the command does not parse, and the call ends at once
      cases hok
      exact h
  · cases hok

theorem Inv.step (h : Inv s) (hheeded : StartHeeded s e) (hok : step s e = .ok s') : Inv s' := by
  cases e with
  | setColor c => exact h.setColor hok
  | writer => exact h.writerStep hheeded hok
  | daemon =>
      cases hd : s.daemon with
      | none =>
          rw [LightDaemon.step, LightDaemon.daemonStep, hd] at hok
          cases hok
      | some d =>
          obtain ⟨s'', hok'', h''⟩ := h.daemonStep hd
          rw [show s' = s'' from Except.ok.inj (hok.symm.trans hok'')]
          exact h''

theorem Inv.staysSettled (h : Inv s) (hheeded : StartHeeded s e) : StaysSettled s e := by
  unfold StaysSettled
  cases hok : LightDaemon.step s e with
  | ok s' => exact (h.step hheeded hok).settled
  | error x =>
      rintro rfl
      cases e with
      | setColor c =>
          simp only [LightDaemon.step] at hok
          repeat' split at hok
          all_goals cases hok
      | writer =>
          simp only [LightDaemon.step, LightDaemon.writerStep] at hok
          split at hok
          all_goals cases hok
      | daemon =>
          cases hd : s.daemon with
          | none =>
              rw [LightDaemon.step, LightDaemon.daemonStep, hd] at hok
              cases hok
          | some d =>
              obtain ⟨s'', hok'', -⟩ := h.daemonStep hd
              cases hok.symm.trans hok''

/-- **If no start request is dropped by an instance that will write something else, then whenever
all calls are done and no instance is running, the nodes show the last call**; and no instance ever
lacks a token. -/
theorem quiet_shows_last_call (props : LightProps) (evs : List Event)
    (hheeded : EveryStep step StartHeeded (.boot props) evs) :
    EveryStep step StaysSettled (.boot props) evs := by
  refine EveryStep.imp (P := Inv) ?_ ?_ (inv_boot props) hheeded
  · intro s e s' h hheeded hok
    exact h.step hheeded hok
  · intro s e h hheeded
    exact h.staysSettled hheeded

/-- A call, all five steps of it. -/
def callSteps (c : Command) : List Event := .setColor c :: List.replicate 5 .writer

/-- The LED is turned off, then lit for charging. The instance of the first call has read everything
when the second call asks for a start, and leaves the LED off. -/
theorem charging_light_lost :
    ¬ EveryStep step StaysSettled (.boot ⟨"", "", "", ""⟩)
      (callSteps .off ++ List.replicate 4 .daemon ++ callSteps .yellow ++
        List.replicate 8 .daemon) := by
  decide +kernel

/-- The same two calls, with the first instance gone before the second call asks for a start. -/
theorem quiet_shows_last_call_charging :
    EveryStep step StaysSettled (.boot ⟨"", "", "", ""⟩)
      (callSteps .off ++ List.replicate 12 .daemon ++ callSteps .yellow ++
        List.replicate 12 .daemon) :=
  quiet_shows_last_call _ _ (by decide +kernel)

end VendorRs.LightDaemon
