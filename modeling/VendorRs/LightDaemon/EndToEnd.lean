import VendorRs.LedLightManager.Session
import VendorRs.LightDaemon.Protocol

/-!
# From the notification to the nodes

The service and the daemon together. A callback of the service decides on its `setColor` calls; each
call writes the properties and asks for the daemon, and the daemon writes the nodes whenever it gets
to run. The next callback waits for the calls of the one before, since both run on the main thread,
but not for the daemon.

Each half has its own result: the last command is the one the state calls for
(`Session`), and when all is quiet the nodes show the last call (`Inv`). `led_shows_state` joins
them: when all is quiet the nodes show what the state of the service calls for.
-/

namespace VendorRs.LightDaemon

open LedLightManager Runs

/-- The service, the calls that its callback has still to make, and the rest. -/
structure Phone where
  service : State
  calls : List Command
  sys : Sys

/-- The device when the service has been created. -/
def Phone.boot (d : Device) : Phone := ⟨.created d, [], .boot d.lightProps⟩

inductive Move where
  | callback (e : LedLightManager.Event)
  /-- The callback makes its next `setColor` call. -/
  | call
  | writer
  | daemon

/-- Why there is no next state. -/
inductive Halt where
  | stuck (why : Stuck)
  /-- A callback ended with an exception. -/
  | thrown (x : Java.Exception)
  deriving DecidableEq, Repr

/-- An event of the two processes. -/
def Phone.sysStep (w : Phone) (calls : List Command) (e : Event) : Except Halt Phone :=
  match step w.sys e with
  | .ok sys => .ok { w with calls := calls, sys := sys }
  | .error why => .error (.stuck why)

def Phone.step (locale : Java.DefaultLocale) (w : Phone) : Move → Except Halt Phone
  | .callback e =>
      if w.calls = [] ∧ w.sys.writer = .idle then
        match LedLightManager.step locale w.service e with
        | .ok s =>
            .ok { w with service := s, calls := s.commands.drop w.service.commands.length }
        | .error (x, _) => .error (.thrown x)
      else .error (.stuck .notEnabled)
  | .call =>
      match w.calls with
      | [] => .error (.stuck .notEnabled)
      | c :: calls => w.sysStep calls (.setColor c)
  | .writer => w.sysStep w.calls .writer
  | .daemon => w.sysStep w.calls .daemon

/-- A session of the service (see `SessionStep`), in which no request for the daemon is dropped by
an instance that will write something else (see `Sys.HeedsStart`). -/
def Heeded (locale : Java.DefaultLocale) (w : Phone) : Move → Prop
  | .callback e => SessionStep locale w.service e
  | .writer => w.sys.HeedsStart
  | .call | .daemon => True

/-- When all is quiet, the nodes show what the state of the service calls for. Before the first
command they show whatever they did. -/
def Phone.Right (w : Phone) : Prop :=
  w.calls = [] → w.sys.writer = .idle → w.sys.daemon = none → w.service.commands ≠ [] →
    ∃ p, (shownCommand w.service).encode = .ok p ∧ Shows w.sys.written p

/-- The step leads to a right state, or is not enabled; no callback throws, and the daemon does not
use what it has not read. -/
def StaysRight (locale : Java.DefaultLocale) (w : Phone) (m : Move) : Prop :=
  match w.step locale m with
  | .ok w' => w'.Right
  | .error halt => halt = .stuck .notEnabled

instance (locale : Java.DefaultLocale) (w : Phone) : ∀ m, Decidable (Heeded locale w m)
  | .callback e => inferInstanceAs (Decidable (SessionStep locale w.service e))
  | .writer => inferInstanceAs (Decidable w.sys.HeedsStart)
  | .call | .daemon => inferInstanceAs (Decidable True)

/-! ## The commands of a callback -/

variable {locale : Java.DefaultLocale} {s s' : State} {w w' : Phone} {m : Move}

/-- The callback has issued commands, all of which parse. -/
def Issues (s s' : State) : Prop :=
  ∃ cs, s'.commands = s.commands ++ cs ∧ ∀ c ∈ cs, c.Parses

theorem Issues.nothing (h : s'.commands = s.commands) : Issues s s' :=
  ⟨[], by rw [h, List.append_nil], by simp⟩

theorem Issues.trans {s₁ : State} (h : Issues s s₁) (h' : Issues s₁ s') : Issues s s' := by
  obtain ⟨cs, hcs, hparse⟩ := h
  obtain ⟨cs', hcs', hparse'⟩ := h'
  refine ⟨cs ++ cs', by rw [hcs', hcs, List.append_assoc], fun c hc => ?_⟩
  exact (List.mem_append.mp hc).elim (hparse c) (hparse' c)

theorem issues_setColor {c : Command} (h : setColor s c = .ok s') : Issues s s' := by
  obtain ⟨hparse, led, rfl, hcmds⟩ := setColor_spec h
  refine ⟨[c], hcmds, fun c' hc' => ?_⟩
  rwa [List.mem_singleton.mp hc']

theorem parses_chargingCommands (b : Battery) : ∀ c ∈ chargingCommands b, c.Parses := by
  intro c hc
  unfold chargingCommands at hc
  split at hc
  · split at hc
    · rw [List.mem_singleton.mp hc]
      exact Command.parses_green
    · rw [List.mem_singleton.mp hc]
      exact Command.parses_yellow
  · cases hc

theorem parses_powerCommands (b : Battery) (action : PowerAction) :
    ∀ c ∈ powerCommands b action, c.Parses := by
  cases action with
  | batteryChanged => exact parses_chargingCommands b
  | powerConnected => exact parses_chargingCommands b
  | powerDisconnected =>
      intro c hc
      rw [List.mem_singleton.mp hc]
      exact Command.parses_off

theorem issues_chargeIfIdle (h : chargeIfIdle s = .ok s') : Issues s s' := by
  obtain ⟨led, hled, hcmds⟩ := chargeIfIdle_spec s
  cases hled.symm.trans h
  refine ⟨_, hcmds, ?_⟩
  split
  · exact parses_chargingCommands s.battery
  · simp

theorem issues_showLatest {kept : List Entry} (h : showLatest s kept = .ok s') : Issues s s' := by
  cases hlast : kept.getLast? with
  | none =>
      rw [showLatest, hlast] at h
      exact issues_setColor (s := { s with rules := .empty, tracked := .empty }) h
  | some e =>
      rw [showLatest, hlast] at h
      exact issues_setColor h

theorem loadConfig_commands (s : State) : (loadConfig s).commands = s.commands := by
  obtain ⟨table, loaded, settings, hload, -⟩ := loadConfig_spec s
  rw [hload]

/-- Whatever a callback of a session does, the commands it issues parse. -/
theorem issues_step {e : LedLightManager.Event} (h : Session s)
    (hok : LedLightManager.step locale s e = .ok s') : Issues s s' := by
  cases e with
  | listenerConnected =>
      obtain ⟨table, loaded, settings, led, hconn, hcmds, -⟩ := onListenerConnected_spec s
      cases hconn.symm.trans hok
      exact ⟨_, hcmds, by simp [h.started]⟩
  | listenerDisconnected =>
      obtain ⟨led, hclose, hcmds⟩ := onClose_of_registered
        (s := { s with isListenerConnected := false }) h.registered
      cases hclose.symm.trans hok
      exact ⟨_, hcmds, by simp [Command.parses_off]⟩
  | notificationPosted n =>
      cases n with
      | none =>
          cases hok
          exact .nothing rfl
      | some n =>
          obtain ⟨rules, hrules⟩ := h.loadConfig.inStep.rules
          have hload := Issues.nothing (loadConfig_commands s)
          change getNotificationAndSetLed locale s n = .ok s' at hok
          by_cases hpkg : n.packageName ∈ rules.map Rule.app
          · rw [getNotificationAndSetLed_spec hrules hpkg] at hok
            unfold postRule at hok
            split at hok
            · next r _ =>
              cases hcolor : setColor (addApp (loadConfig s) n) r.command with
              | error x =>
                  rw [hcolor] at hok
                  cases hok
              | ok s₁ =>
                  rw [hcolor] at hok
                  cases hok
                  have hissued : Issues (addApp (loadConfig s) n) s₁ := issues_setColor hcolor
                  exact hload.trans hissued
            · cases hok
              exact hload
          · rw [getNotificationAndSetLed_of_not_mem hrules hpkg] at hok
            cases hok
            exact hload
  | notificationRemoved n =>
      obtain ⟨es, hes, -⟩ := h.inStep.entries
      change onNotificationRemoved locale s n = .ok s' at hok
      rw [onNotificationRemoved_spec hes] at hok
      split at hok
      · obtain ⟨s₁, h₁, hok⟩ := Java.bind_eq_ok.mp hok
        exact (issues_showLatest h₁).trans (issues_chargeIfIdle hok)
      · exact issues_chargeIfIdle hok
  | power action b =>
      obtain ⟨led, hrecv, hcmds⟩ :=
        onPowerReceive_spec (s := { s with battery := b }) h.enabled action
      change (if s.mPowerReceiver then onPowerReceive { s with battery := b } action else _) = _
        at hok
      rw [if_pos h.registered] at hok
      cases hrecv.symm.trans hok
      refine ⟨_, hcmds, ?_⟩
      split
      · exact parses_powerCommands b action
      · simp
  | configFile content =>
      cases hok
      exact .nothing rfl

/-! ## The two halves together -/

theorem encode_of_parses {c : Command} (h : c.Parses) : ∃ p, c.encode = .ok p := by
  obtain ⟨color, onMs, offMs, hcolor, hon, hoff⟩ := h
  exact ⟨lightProps c.blink color onMs offMs, by simp [Command.encode, hcolor, hon, hoff]⟩

/-- The calls made are the commands issued, up to those still to be made, and the last call is the
last of them. -/
structure Phone.Inv (w : Phone) : Prop where
  session : Session w.service
  sys : LightDaemon.Inv w.sys
  parses : ∀ c ∈ w.service.commands, c.Parses
  calls : ∃ made, w.service.commands = made ++ w.calls ∧
    ∀ c ∈ made.getLast?, ∀ p, c.encode = .ok p → w.sys.last = some p

theorem Phone.Inv.right (h : w.Inv) : w.Right := by
  intro hcalls hwriter hdaemon hne
  obtain ⟨made, hmade, hlast⟩ := h.calls
  rw [hcalls, List.append_nil] at hmade
  have hc : w.service.commands.getLast? = some (w.service.commands.getLast hne) :=
    List.getLast?_eq_some_getLast hne
  generalize w.service.commands.getLast hne = c at hc
  have hshown : shownCommand w.service = c := by
    rw [← h.session.coherent, lastCommand, hc, Option.getD_some]
  obtain ⟨p, hp⟩ := encode_of_parses (h.parses c (List.mem_of_getLast? hc))
  rw [hmade] at hc
  refine ⟨p, hshown ▸ hp, ?_⟩
  exact h.sys.settled hwriter hdaemon p (hlast c hc p hp)

/-- The service decides on further calls. -/
theorem Phone.Inv.callback (h : w.Inv) (hcalls : w.calls = []) (hsession : Session s)
    (hissues : Issues w.service s) :
    Phone.Inv { w with service := s, calls := s.commands.drop w.service.commands.length } := by
  obtain ⟨made, hmade, hlast⟩ := h.calls
  obtain ⟨cs, hcs, hparse⟩ := hissues
  rw [hcalls, List.append_nil] at hmade
  exact {
    session := hsession
    sys := h.sys
    parses := by
      intro c hc
      rw [hcs] at hc
      exact (List.mem_append.mp hc).elim (h.parses c) (hparse c)
    calls := ⟨made, by simp only [hcs, List.drop_left, hmade], hlast⟩ }

theorem last_of_writerStep {s s' : Sys} (h : writerStep s = .ok s') : s'.last = s.last := by
  unfold writerStep at h
  split at h <;> cases h <;> rfl

theorem last_of_daemonStep {s s' : Sys} (h : daemonStep s = .ok s') : s'.last = s.last := by
  unfold daemonStep at h
  split at h
  case h_1 => cases h
  case h_5 =>
    split at h
    · cases h
      rfl
    · cases h
  all_goals
    cases h
    rfl

/-- An event of the two processes that begins no call. -/
theorem Phone.Inv.sysStep {e : Event} (h : w.Inv) (hheeded : StartHeeded w.sys e)
    (he : ∀ c, e ≠ .setColor c) (hok : w.sysStep w.calls e = .ok w') : w'.Inv := by
  unfold Phone.sysStep at hok
  split at hok
  · next sys hsys =>
    cases hok
    have hlast : sys.last = w.sys.last := by
      cases e with
      | setColor c => exact absurd rfl (he c)
      | writer => exact last_of_writerStep hsys
      | daemon => exact last_of_daemonStep hsys
    exact { h with
      sys := h.sys.step hheeded hsys
      calls := by
        obtain ⟨made, hmade, hcall⟩ := h.calls
        exact ⟨made, hmade, fun c hc p hp => hlast.trans (hcall c hc p hp)⟩ }
  · cases hok

/-- A call begins. -/
theorem Phone.Inv.call {c : Command} {calls : List Command} (h : w.Inv)
    (hcalls : w.calls = c :: calls) (hok : w.sysStep calls (.setColor c) = .ok w') : w'.Inv := by
  obtain ⟨made, hmade, hcall⟩ := h.calls
  rw [hcalls, List.append_cons] at hmade
  unfold Phone.sysStep at hok
  split at hok
  · next sys hsys =>
    cases hok
    exact { h with
      sys := h.sys.setColor hsys
      calls := by
        refine ⟨made ++ [c], hmade, ?_⟩
        rw [List.getLast?_concat]
        rintro _ ⟨⟩ p hp
        simp only [LightDaemon.step, hp] at hsys
        split at hsys
        · cases hsys
          rfl
        · cases hsys }
  · cases hok

theorem Phone.Inv.step (h : w.Inv) (hm : Heeded locale w m) (hok : w.step locale m = .ok w') :
    w'.Inv := by
  cases m with
  | callback e =>
      simp only [Phone.step] at hok
      split at hok
      · next hidle =>
        obtain ⟨s, hs, hsession⟩ := step_session h.session hm
        rw [hs] at hok
        cases hok
        exact h.callback hidle.1 hsession (issues_step h.session hs)
      · cases hok
  | call =>
      simp only [Phone.step] at hok
      split at hok
      · cases hok
      · next c calls hcalls => exact h.call hcalls hok
  | writer => exact h.sysStep (e := .writer) hm (by simp) hok
  | daemon => exact h.sysStep (e := .daemon) trivial (by simp) hok

/-- A step that is not possible is one of a process with nothing to do. -/
theorem Phone.Inv.halt {halt : Halt} (h : w.Inv) (hm : Heeded locale w m)
    (hhalt : w.step locale m = .error halt) : halt = .stuck .notEnabled := by
  have hsys {calls : List Command} {e : Event} (he : StartHeeded w.sys e)
      (hstuck : w.sysStep calls e = .error halt) : halt = .stuck .notEnabled := by
    have hstays := h.sys.staysSettled he
    unfold Phone.sysStep at hstuck
    unfold StaysSettled at hstays
    split at hstuck
    · cases hstuck
    · next why hwhy =>
      cases hstuck
      rw [hwhy] at hstays
      cases why with
      | notEnabled => rfl
      | indeterminate => exact absurd rfl hstays
  cases m with
  | callback e =>
      simp only [Phone.step] at hhalt
      split at hhalt
      · obtain ⟨s, hs, -⟩ := step_session h.session hm
        rw [hs] at hhalt
        cases hhalt
      · cases hhalt
        rfl
  | call =>
      simp only [Phone.step] at hhalt
      split at hhalt
      · cases hhalt
        rfl
      · next c calls _ => exact hsys (e := .setColor c) trivial hhalt
  | writer => exact hsys (e := .writer) hm hhalt
  | daemon => exact hsys (e := .daemon) trivial hhalt

theorem Phone.Inv.staysRight (h : w.Inv) (hm : Heeded locale w m) : StaysRight locale w m := by
  unfold StaysRight
  cases hok : w.step locale m with
  | ok w' => exact (h.step hm hok).right
  | error halt => exact h.halt hm hok

/-- The first callback of a session. -/
theorem Phone.inv_connected (locale : Java.DefaultLocale) (d : Device) :
    ∃ w, (Phone.boot d).step locale (.callback .listenerConnected) = .ok w ∧ w.Inv := by
  obtain ⟨table, loaded, settings, led, hconn, hcmds, -⟩ := onListenerConnected_spec (.created d)
  obtain ⟨s, hs, hsession⟩ := session_connected locale d
  refine ⟨{ Phone.boot d with service := s, calls := s.commands }, ?_, ?_⟩
  · have hservice : (Phone.boot d).service = .created d := rfl
    simp only [Phone.step, hservice, hs]
    rfl
  · cases hconn.symm.trans hs
    exact {
      session := hsession
      sys := inv_boot d.lightProps
      parses := by
        intro c hc
        rw [State.withLed_commands, hcmds] at hc
        exact parses_chargingCommands d.battery c hc
      calls := ⟨[], rfl, by simp⟩ }

/-- **When all is quiet, the nodes show what the state of the service calls for**, in any order in
which the callbacks of a session, their calls and the daemon get to run, as long as no request for
the daemon is dropped by an instance that will write something else. -/
theorem led_shows_state (locale : Java.DefaultLocale) (d : Device) (ms : List Move)
    (h : EveryStep (Phone.step locale) (Heeded locale) (.boot d)
      (.callback .listenerConnected :: ms)) :
    EveryStep (Phone.step locale) (StaysRight locale) (.boot d)
      (.callback .listenerConnected :: ms) := by
  obtain ⟨w, hconn, hw⟩ := Phone.inv_connected locale d
  rw [everyStep_cons_ok hconn] at h ⊢
  refine ⟨?_, ?_⟩
  · rw [StaysRight, hconn]
    exact hw.right
  · refine EveryStep.imp (P := Phone.Inv) ?_ ?_ hw h.2
    · intro w m w' hw hm hok
      exact hw.step hm hok
    · intro w m hw hm
      exact hw.staysRight hm

/-- A notification is posted, and removed while the daemon writes the nodes for it. The daemon is
gone when the second call asks for it. -/
def overlappingMoves : List Move :=
  [.callback (.notificationPosted (some (appNotification none "Alice"))), .call] ++
    List.replicate 5 .writer ++ List.replicate 4 .daemon ++
    [.callback (.notificationRemoved (appNotification none "Alice")), .call] ++
    List.replicate 4 .writer ++ List.replicate 8 .daemon ++ [.writer] ++ List.replicate 12 .daemon

theorem led_shows_state_overlapping :
    EveryStep (Phone.step .ascii) (StaysRight .ascii) (.boot (.withConfig "app,alice,FF0000"))
      (.callback .listenerConnected :: overlappingMoves) :=
  led_shows_state _ _ _ (by decide +kernel)

end VendorRs.LightDaemon
