import VendorRs.Lib.Runs
import VendorRs.CallManager.Spec

/-!
# One recording, two SIMs

Each SIM has a listener of its own, but both drive the same two flags: a SIM that reports `idle`
ends the recording, whichever SIM the call is on. `recording_kept_iff` says exactly when that
happens: a recording that has started lasts as long as a SIM is active, if and only if no SIM
reports `idle` during it while the other one is active.
-/

namespace VendorRs.CallManager

open Java Runs

/-- A report to the listener of a SIM. -/
structure Report where
  sim : Sim
  state : PreciseCallState
  p : Platform
  deriving DecidableEq, Repr

/-- The manager, and the latest foreground state each SIM has reported. -/
structure Calls where
  manager : State
  latest1 : Option PreciseCallState
  latest2 : Option PreciseCallState

def Calls.latest (c : Calls) : Sim → Option PreciseCallState
  | .sim1 => c.latest1
  | .sim2 => c.latest2

def Sim.other : Sim → Sim
  | .sim1 => .sim2
  | .sim2 => .sim1

/-- The report is the latest one of its SIM. -/
def Calls.reported (c : Calls) (manager : State) (r : Report) : Calls :=
  match r.sim with
  | .sim1 => { c with manager := manager, latest1 := some r.state }
  | .sim2 => { c with manager := manager, latest2 := some r.state }

/-- A report reaches the manager. -/
def report (c : Calls) (r : Report) : Outcome State Calls := do
  let manager ← step c.manager (.preciseCallState r.sim r.state r.p)
  return c.reported manager r

/-- The service after it was connected with recording enabled, before any report. -/
def Calls.connected (vibrateDuringCalls : Option Bool) (directory : Option String) : Calls :=
  ⟨onServiceConnected (.created (some true) vibrateDuringCalls directory), none, none⟩

/-- With this report, some SIM is active. -/
def SomeActive (c : Calls) (r : Report) : Prop :=
  r.state = .active ∨ c.latest r.sim.other = some .active

/-- If a call is being recorded and a SIM is active, it is still being recorded after the report. A
report that ends with an exception has tried to stop the recorder. -/
def KeepsRecording (c : Calls) (r : Report) : Prop :=
  c.manager.areWeRecordingACall = true → SomeActive c r →
    match report c r with
    | .ok c' => c'.manager.areWeRecordingACall = true
    | .error _ => False

/-- A SIM that reports `idle` during a recording does so while the other one is not active. -/
def IdleWhileAlone (c : Calls) (r : Report) : Prop :=
  r.state = .idle → c.manager.areWeRecordingACall = true → c.latest r.sim.other ≠ some .active

instance (c : Calls) (r : Report) : Decidable (KeepsRecording c r) := by
  unfold KeepsRecording SomeActive
  have : Decidable (match report c r with
      | .ok c' => c'.manager.areWeRecordingACall = true
      | .error _ => False) := by
    split <;> infer_instance
  infer_instance

/-- The manager runs, is not about to stop, and records only during a call. -/
structure Enabled (s : State) : Prop where
  alive : s.destroyed = false
  listeners : s.phoneStateListeners = true
  running : s.isServiceRunning = true
  listening : s.stopListening = false
  in_call : s.areWeRecordingACall = true → s.isAcallInProgress = true

variable {s s' : State} {p : Platform} {c c' : Calls} {r : Report}

theorem enabled_connected (vibrateDuringCalls : Option Bool) (directory : Option String) :
    Enabled (Calls.connected vibrateDuringCalls directory).manager := by
  constructor <;>
    simp [Calls.connected, onServiceConnected, State.created, enableCallRecording,
      enableCallVibration, enableService, onStartup]

/-- While the manager is enabled, a report is what the listener makes of it. -/
theorem Enabled.step_eq (h : Enabled s) (sim : Sim) (state : PreciseCallState) :
    step s (.preciseCallState sim state p) = onPreciseCallStateChanged s state p := by
  unfold step
  rw [if_neg (by simp [h.alive])]
  exact if_pos h.listeners

/-- An idle SIM ends the call if there is one, and with it the recording. -/
theorem Enabled.idle_spec (h : Enabled s) (p : Platform) :
    (s.areWeRecordingACall = false ∧ manageCallEnding s p = .ok s) ∨
      (∃ m, manageCallEnding s p = .ok (s.callEnded m)) ∨
      ∃ x, manageCallEnding s p = .error x := by
  by_cases hcall : s.isAcallInProgress = true
  · by_cases hstop : s.areWeRecordingACall = true → p.stop = none
    · obtain ⟨m, hend⟩ := manageCallEnding_spec hcall hstop
      -- the manager stays open: it runs, and is not about to stop
      rw [if_neg (by simp [h.listening, h.running])] at hend
      exact .inr (.inl ⟨m, hend⟩)
    · -- the recorder throws
      obtain ⟨hrec, hne⟩ := Classical.not_imp.mp hstop
      obtain ⟨x, hx⟩ := Option.ne_none_iff_exists'.mp hne
      obtain ⟨s₁, hthrows⟩ := manageCallEnding_throws hcall hrec hx
      exact .inr (.inr ⟨_, hthrows⟩)
  · have hrec : s.areWeRecordingACall = false := by
      apply Bool.eq_false_iff.mpr
      intro hrec
      exact hcall (h.in_call hrec)
    left
    exact ⟨hrec, manageCallEnding_idle (Bool.eq_false_iff.mpr hcall)⟩

theorem Enabled.changed (h : Enabled s) {state : PreciseCallState}
    (hok : onPreciseCallStateChanged s state p = .ok s') : Enabled s' := by
  cases state with
  | active =>
      obtain ⟨m, recording, rfl, -⟩ := manageCallStarting_spec hok
      exact { h with
        in_call := by
          intro _
          rfl }
  | idle =>
      rcases h.idle_spec p with ⟨-, hend⟩ | ⟨m, hend⟩ | ⟨x, hend⟩
      · cases hok.symm.trans hend
        exact h
      · cases hok.symm.trans hend
        exact { h with
          in_call := by
            intro hrec
            cases hrec }
      · cases hok.symm.trans hend
  | _ =>
      cases hok
      exact h

/-! ## Reports -/

theorem Calls.reported_manager (c : Calls) (manager : State) (r : Report) :
    (c.reported manager r).manager = manager := by
  unfold Calls.reported
  split <;> rfl

theorem Enabled.report_eq (h : Enabled c.manager) :
    report c r = (onPreciseCallStateChanged c.manager r.state r.p).map (c.reported · r) := by
  rw [report, h.step_eq]
  rfl

theorem Enabled.report (h : Enabled c.manager) (hok : report c r = .ok c') :
    Enabled c'.manager := by
  rw [h.report_eq] at hok
  cases hchanged : onPreciseCallStateChanged c.manager r.state r.p with
  | ok manager =>
      rw [hchanged] at hok
      cases hok
      rw [Calls.reported_manager]
      exact h.changed hchanged
  | error x =>
      rw [hchanged] at hok
      cases hok

/-- A recording survives any report but `idle`. -/
theorem keepsRecording_of_ne_idle (hrec : s.areWeRecordingACall = true) {state : PreciseCallState}
    (hstate : state ≠ .idle) :
    ∃ s', onPreciseCallStateChanged s state p = .ok s' ∧ s'.areWeRecordingACall = true := by
  cases state with
  | active =>
      obtain ⟨m, hstart⟩ := manageCallStarting_of_recording (p := p) hrec
      exact ⟨_, hstart, hrec⟩
  | idle => exact absurd rfl hstate
  | _ => exact ⟨s, rfl, hrec⟩

theorem keepsRecording_iff_idleWhileAlone (h : Enabled c.manager) :
    KeepsRecording c r ↔ IdleWhileAlone c r := by
  constructor
  · intro hkeeps hidle hrec hother
    have hkept := hkeeps hrec (.inr hother)
    rw [h.report_eq, hidle] at hkept
    -- the idle SIM ends the recording, or throws on the way
    rcases h.idle_spec r.p with ⟨hnot, -⟩ | ⟨m, hend⟩ | ⟨x, hend⟩
    · cases hrec.symm.trans hnot
    · have hkept : (c.reported (c.manager.callEnded m) r).manager.areWeRecordingACall = true := by
        simpa [onPreciseCallStateChanged, hend, Except.map] using hkept
      rw [Calls.reported_manager] at hkept
      cases hkept
    · simp [onPreciseCallStateChanged, hend, Except.map] at hkept
  · intro halone hrec hactive
    have hstate : r.state ≠ .idle := by
      intro hidle
      rcases hactive with hactive | hother
      · cases hidle.symm.trans hactive
      · exact halone hidle hrec hother
    obtain ⟨s', hchanged, hrec'⟩ := keepsRecording_of_ne_idle (p := r.p) hrec hstate
    rw [h.report_eq, hchanged]
    show (c.reported s' r).manager.areWeRecordingACall = true
    rw [Calls.reported_manager, hrec']

/-- **With recording enabled, a recording that has started lasts as long as a SIM is active, if and
only if no SIM reports `idle` during a recording while the other one is active.** -/
theorem recording_kept_iff (vibrateDuringCalls : Option Bool) (directory : Option String)
    (rs : List Report) :
    EveryStep report KeepsRecording (.connected vibrateDuringCalls directory) rs ↔
      EveryStep report IdleWhileAlone (.connected vibrateDuringCalls directory) rs := by
  apply everyStep_iff (P := fun c => Enabled c.manager) (B := fun _ _ => True)
  · intro c r c' h _ _ hok
    exact h.report hok
  · intro c r h _
    exact keepsRecording_iff_idleWhileAlone h
  · exact enabled_connected vibrateDuringCalls directory
  · exact everyStep_true

/-- A call on the first SIM, and the second one reports that it is idle. -/
theorem recording_cut_by_other_sim :
    ¬ EveryStep report KeepsRecording (.connected none none)
      [⟨.sim1, .active, ⟨"/storage/emulated/0", "20210301_101500", none, none, none⟩⟩,
        ⟨.sim2, .idle, ⟨"/storage/emulated/0", "20210301_101505", none, none, none⟩⟩] := by
  decide +kernel

end VendorRs.CallManager
