import VendorRs.Lib.Runs
import VendorRs.CallManager.Spec

/-!
# When the receivers of the call manager are registered

The manager is closed from three places: the preference listener, the end of a call, and
`onDestroy`. None of them looks whether it is open. `Inv` says what the flags know about that: while
the service lives, the receivers are registered exactly if the manager runs or is to stop at the end
of the call. From it follows the exact condition under which closing goes well,
`registration_kept_iff`.
-/

namespace VendorRs.CallManager

open Java Runs

variable {s s' : State} {p : Platform} {e : Event}

/-! ## What should hold, and when it does -/

/-- No receiver was unregistered that was not registered, and if the manager still runs, both are
registered. -/
def Registered (o : Outcome State State) : Prop :=
  match o with
  | .ok s => s.destroyed = false → s.isServiceRunning = true →
      s.callRecorderReceiver = true ∧ s.outGoingNumDetector = true
  | .error (x, _) => x ≠ .receiverNotRegistered

def StaysRegistered (s : State) (e : Event) : Prop := Registered (step s e)

/-- The end of a call finds the manager either running or about to stop, not both and not neither.
(A recorder that throws ends the callback before it matters.) -/
def CallEndFits (s : State) (p : Platform) : Prop :=
  s.isAcallInProgress = true → (s.areWeRecordingACall = true → p.stop = none) →
    (s.isServiceRunning = true ↔ s.stopListening = false)

/-- The manager runs, is about to stop, or was never started. -/
def CanClose (s : State) : Prop :=
  s.mContext = true → s.isServiceRunning = true ∨ s.stopListening = true

/-- A call that ends finds the manager either running or about to stop; a service that is destroyed
finds it running, about to stop, or never started. So does a switch that is set for the first time,
to off: its callback closes the manager as if it had been on before. -/
def CloseFits (s : State) : Event → Prop
  | .setRecordCall value => s.recordCallPref = none → value = false → CanClose s
  | .setVibrateDuringCalls value => s.vibrateDuringCallsPref = none → value = false → CanClose s
  | .preciseCallState _ .idle p => CallEndFits s p
  | .phoneState .idle p => s.callRecorderReceiver = true → CallEndFits s p
  | .destroy => CanClose s
  | _ => True

/-- A service that is destroyed takes no more events. -/
def CloseFitsAlive (s : State) (e : Event) : Prop := s.destroyed = false → CloseFits s e

instance (o : Outcome State State) : Decidable (Registered o) := by
  unfold Registered
  split <;> infer_instance

instance (s : State) (e : Event) : Decidable (StaysRegistered s e) :=
  inferInstanceAs (Decidable (Registered _))

instance (s : State) (p : Platform) : Decidable (CallEndFits s p) := by
  unfold CallEndFits
  infer_instance

instance (s : State) : Decidable (CanClose s) := inferInstanceAs (Decidable (_ → _))

instance (s : State) (e : Event) : Decidable (CloseFits s e) := by
  unfold CloseFits
  split <;> infer_instance

instance (s : State) (e : Event) : Decidable (CloseFitsAlive s e) :=
  inferInstanceAs (Decidable (_ → _))

/-! ## The invariant -/

structure Inv (s : State) : Prop where
  listeners : s.phoneStateListeners = s.mContext
  receiver : s.callRecorderReceiver = (s.mContext && (s.isServiceRunning || s.stopListening))
  detector : s.outGoingNumDetector = s.callRecorderReceiver
  running : s.isServiceRunning =
    (s.areWeAllowedToRecordACall || s.areWeAllowedToVibrateDuringCalls)
  record_pref : s.areWeAllowedToRecordACall = s.recordCallPref.getD false
  vibrate_pref : s.areWeAllowedToVibrateDuringCalls = s.vibrateDuringCallsPref.getD false
  started : s.isServiceRunning = true → s.mContext = true
  stop_recording : s.stopListening = true → s.areWeRecordingACall = true
  recording : s.areWeRecordingACall = true → s.mContext = true ∧
    (s.isServiceRunning = true ∨ s.stopListening = true)
  in_call : s.isAcallInProgress = true → s.mContext = true

theorem Inv.registered (h : Inv s) : Registered (.ok s) := by
  intro _ hrun
  have hrec : s.callRecorderReceiver = true := by
    rw [h.receiver, h.started hrun, hrun]
    rfl
  exact ⟨hrec, h.detector.trans hrec⟩

/-- Recorders, vibrations and numbers do not matter. -/
theorem Inv.withMedia (h : Inv s) (m : Media) : Inv (s.withMedia m) :=
  { h with }

theorem inv_connected (recordCall vibrateDuringCalls : Option Bool) (directory : Option String) :
    Inv (onServiceConnected (.created recordCall vibrateDuringCalls directory)) := by
  cases hrecord : recordCall.getD false <;> cases hvibrate : vibrateDuringCalls.getD false <;>
    constructor <;>
    simp [onServiceConnected, State.created, enableCallRecording, enableCallVibration,
      enableService, onStartup, hrecord, hvibrate]

/-! ## Callbacks that are fine under a condition -/

/-- What comes of a callback is as it should be exactly under the condition `C`, and then the
invariant is kept, unless the service is gone. -/
structure FineIf (o : Outcome State State) (C : Prop) : Prop where
  registered_iff : Registered o ↔ C
  keeps : C → ∀ s', o = .ok s' → s'.destroyed = true ∨ Inv s'

section FineIf

variable {C : Prop}

/-- It returns in a state with the invariant, whatever happens. -/
theorem fineIf_of_inv {o : Outcome State State} (hC : C) (h : ∃ s', o = .ok s' ∧ Inv s') :
    FineIf o C := by
  obtain ⟨s', rfl, hinv⟩ := h
  constructor
  · exact iff_of_true hinv.registered hC
  · rintro - _ ⟨⟩
    right
    exact hinv

/-- It throws something that has nothing to do with receivers. -/
theorem fineIf_of_throws {x : Exception} (hC : C) (hx : x ≠ .receiverNotRegistered) :
    FineIf (.error (x, s)) C := by
  constructor
  · exact iff_of_true hx hC
  · intro _ s' hok
    cases hok

/-- It is not as it should be, and the condition excludes it. -/
theorem fineIf_of_not {o : Outcome State State} (hnot : ¬ Registered o) (hC : ¬ C) :
    FineIf o C := by
  constructor
  · exact iff_of_false hnot hC
  · intro hC'
    exact absurd hC' hC

/-- A receiver is unregistered that is not registered. -/
theorem fineIf_of_not_registered (hC : ¬ C) : FineIf (.error (.receiverNotRegistered, s)) C := by
  apply fineIf_of_not ?_ hC
  intro hreg
  exact hreg rfl

end FineIf

/-! ## Calls -/

theorem Inv.callStart (h : Inv s) (hctx : s.mContext = true)
    (hok : manageCallStarting s p = .ok s') : Inv s' := by
  obtain ⟨m, recording, rfl, hkeep, hallowed⟩ := manageCallStarting_spec hok
  -- a recording can only have started now if it is allowed, and then the manager runs
  have hopen : recording = true → s.isServiceRunning = true ∨ s.stopListening = true := by
    intro hrec
    cases hallow : s.areWeAllowedToRecordACall with
    | true =>
        left
        rw [h.running, hallow, Bool.true_or]
    | false =>
        rw [hallowed hallow] at hrec
        exact (h.recording hrec).2
  exact { h with
    stop_recording := by
      intro hstop
      apply hkeep
      exact h.stop_recording hstop
    recording := by
      intro hrec
      exact ⟨hctx, hopen hrec⟩
    in_call := by
      intro _
      exact hctx }

theorem Inv.fineIf_callStart (h : Inv s) (hctx : s.mContext = true) (p : Platform) :
    FineIf (manageCallStarting s p) True := by
  cases hstart : manageCallStarting s p with
  | ok s' => exact fineIf_of_inv trivial ⟨s', rfl, h.callStart hctx hstart⟩
  | error x =>
      obtain ⟨x, s'⟩ := x
      exact fineIf_of_throws trivial (manageCallStarting_error hstart)

theorem Inv.ended (h : Inv s) (hlisten : s.stopListening = false) (m : Media) :
    Inv (s.callEnded m) :=
  { h with
    stop_recording := by
      intro hstop
      cases hlisten.symm.trans hstop
    recording := by
      intro hrec
      cases hrec
    in_call := by
      intro hcall
      cases hcall }

theorem Inv.endedClosed (h : Inv s) (hrun : s.isServiceRunning = false) (m : Media) :
    Inv { s.callEndedToClose m with
      callRecorderReceiver := false, outGoingNumDetector := false } :=
  { h with
    receiver := by
      show false = (s.mContext && (s.isServiceRunning || false))
      rw [hrun, Bool.or_self, Bool.and_false]
    detector := rfl
    stop_recording := by
      intro hstop
      cases hstop
    recording := by
      intro hrec
      cases hrec
    in_call := by
      intro hcall
      cases hcall }

/-- The end of a call whose recorder, if there is one, stops without an exception. -/
theorem Inv.fineIf_callEnd_of_stop (h : Inv s) (hd : s.destroyed = false)
    (hcall : s.isAcallInProgress = true) (hstop : s.areWeRecordingACall = true → p.stop = none) :
    FineIf (manageCallEnding s p) (s.isServiceRunning = true ↔ s.stopListening = false) := by
  obtain ⟨m, hend⟩ := manageCallEnding_spec hcall hstop
  have hctx := h.in_call hcall
  have hreceiver := h.receiver
  rw [hctx, Bool.true_and] at hreceiver
  have hdetector := h.detector.trans hreceiver
  rw [hend]
  cases hlisten : s.stopListening <;> cases hrun : s.isServiceRunning <;>
    simp only [hlisten, hrun, Bool.or_true, Bool.or_false, Bool.false_eq_true, Bool.not_true,
      Bool.not_false, if_true, if_false] at hreceiver hdetector ⊢
  case false.false =>
    -- closed before, and closed again
    rw [onClose_not_registered (s := s.callEndedToClose m) hctx hreceiver]
    exact fineIf_of_not_registered (by simp)
  case false.true => exact fineIf_of_inv (by simp) ⟨_, rfl, h.ended hlisten m⟩
  case true.false =>
    rw [onClose_of_registered (s := s.callEndedToClose m) hctx hreceiver hdetector]
    exact fineIf_of_inv (by simp) ⟨_, rfl, h.endedClosed hrun m⟩
  case true.true =>
    -- switched on again during the call, and closed nevertheless
    rw [onClose_of_registered (s := s.callEndedToClose m) hctx hreceiver hdetector]
    refine fineIf_of_not ?_ (by simp)
    intro hreg
    cases (hreg hd hrun).1

/-- The end of a call, from whichever side it is reported. -/
theorem Inv.fineIf_callEnd (h : Inv s) (hd : s.destroyed = false) (p : Platform) :
    FineIf (manageCallEnding s p) (CallEndFits s p) := by
  by_cases hcall : s.isAcallInProgress = true
  · by_cases hstop : s.areWeRecordingACall = true → p.stop = none
    · have hfits : CallEndFits s p ↔ (s.isServiceRunning = true ↔ s.stopListening = false) := by
        constructor
        · intro hfits
          exact hfits hcall hstop
        · intro hfits _ _
          exact hfits
      rw [hfits]
      exact h.fineIf_callEnd_of_stop hd hcall hstop
    · -- the recorder throws, and nothing is closed
      have hfits : CallEndFits s p := by
        intro _ hstop'
        exact absurd hstop' hstop
      obtain ⟨hrec, hne⟩ := Classical.not_imp.mp hstop
      obtain ⟨x, hx⟩ := Option.ne_none_iff_exists'.mp hne
      obtain ⟨s₁, hthrows⟩ := manageCallEnding_throws hcall hrec hx
      rw [hthrows]
      exact fineIf_of_throws hfits x.toException_ne
  · -- no call is in progress, and nothing happens
    have hfits : CallEndFits s p := by
      intro hcall'
      exact absurd hcall' hcall
    rw [manageCallEnding_idle (Bool.eq_false_iff.mpr hcall)]
    exact fineIf_of_inv hfits ⟨s, rfl, h⟩

/-! ## Closing -/

theorem Inv.onClose_of_canClose (h : Inv s) (hcan : CanClose s) : ∃ s', onClose s = .ok s' := by
  by_cases hctx : s.mContext = true
  · have hrec : s.callRecorderReceiver = true := by
      rw [h.receiver, hctx]
      simpa using hcan hctx
    exact ⟨_, onClose_of_registered hctx hrec (h.detector.trans hrec)⟩
  · exact ⟨s, onClose_without_context (Bool.eq_false_iff.mpr hctx)⟩

theorem Inv.onClose_of_not_canClose (h : Inv s) (hcannot : ¬ CanClose s) :
    onClose s = .error (.receiverNotRegistered, s) := by
  obtain ⟨hctx, hclosed⟩ := Classical.not_imp.mp hcannot
  apply onClose_not_registered hctx
  rw [h.receiver, hctx]
  simpa using hclosed

/-- The callback of a switch that changes nothing in effect: if the manager does not run, it is
closed, also when it was closed before. -/
theorem Inv.fineIf_closeIfStopped (h : Inv s) : FineIf (closeIfStopped s) (CanClose s) := by
  unfold closeIfStopped
  by_cases hr : s.isServiceRunning = true
  · rw [if_neg (by simp [hr])]
    have hcan : CanClose s := by
      intro _
      exact .inl hr
    exact fineIf_of_inv hcan ⟨s, rfl, h⟩
  · rw [if_pos (by simp [hr])]
    by_cases hrec : s.areWeRecordingACall = true
    · -- it is about to stop already
      have hlisten : s.stopListening = true := (h.recording hrec).2.resolve_left hr
      have hsame : { s with stopListening := true } = s := by rw [← hlisten]
      have hcan : CanClose s := by
        intro _
        exact .inr hlisten
      rw [if_neg (by simp [hrec]), hsame]
      exact fineIf_of_inv hcan ⟨s, rfl, h⟩
    · rw [if_pos (by simp [hrec])]
      by_cases hcan : CanClose s
      · -- neither running nor about to stop, so it was never started
        have hctx : s.mContext = false := by
          apply Bool.eq_false_iff.mpr
          intro hctx
          rcases hcan hctx with hr' | hlisten
          · exact hr hr'
          · exact hrec (h.stop_recording hlisten)
        rw [onClose_without_context hctx]
        exact fineIf_of_inv hcan ⟨s, rfl, h⟩
      · rw [h.onClose_of_not_canClose hcan]
        exact fineIf_of_not_registered hcan

/-! ## Switches -/

/-- The invariant of a manager that was started, less what follows from that alone. -/
theorem inv_of_started (hctx : s.mContext = true) (hlis : s.phoneStateListeners = true)
    (hreceiver : s.callRecorderReceiver = (s.isServiceRunning || s.stopListening))
    (hdetector : s.outGoingNumDetector = s.callRecorderReceiver)
    (hrun : s.isServiceRunning =
      (s.areWeAllowedToRecordACall || s.areWeAllowedToVibrateDuringCalls))
    (hrecord : s.areWeAllowedToRecordACall = s.recordCallPref.getD false)
    (hvibrate : s.areWeAllowedToVibrateDuringCalls = s.vibrateDuringCallsPref.getD false)
    (hstop : s.stopListening = true → s.areWeRecordingACall = true)
    (hrecording : s.areWeRecordingACall = true →
      s.isServiceRunning = true ∨ s.stopListening = true) : Inv s where
  listeners := by rw [hlis, hctx]
  receiver := by rw [hreceiver, hctx, Bool.true_and]
  detector := hdetector
  running := hrun
  record_pref := hrecord
  vibrate_pref := hvibrate
  started := by
    intro _
    exact hctx
  stop_recording := hstop
  recording := by
    intro hrec
    exact ⟨hctx, hrecording hrec⟩
  in_call := by
    intro _
    exact hctx

/-- A switch was changed in a manager that is open, before or because of it. -/
theorem closeIfStopped_inv (hctx : s.mContext = true) (hlis : s.phoneStateListeners = true)
    (hrec : s.callRecorderReceiver = true) (hdet : s.outGoingNumDetector = true)
    (hrun : s.isServiceRunning =
      (s.areWeAllowedToRecordACall || s.areWeAllowedToVibrateDuringCalls))
    (hrecord : s.areWeAllowedToRecordACall = s.recordCallPref.getD false)
    (hvibrate : s.areWeAllowedToVibrateDuringCalls = s.vibrateDuringCallsPref.getD false)
    (hstop : s.stopListening = true → s.areWeRecordingACall = true) :
    ∃ s', closeIfStopped s = .ok s' ∧ Inv s' := by
  have hdetector : s.outGoingNumDetector = s.callRecorderReceiver := by rw [hdet, hrec]
  unfold closeIfStopped
  by_cases hr : s.isServiceRunning = true
  · -- it runs on
    rw [if_neg (by simp [hr])]
    refine ⟨s, rfl, inv_of_started hctx hlis ?_ hdetector hrun hrecord hvibrate hstop ?_⟩
    · rw [hrec, hr, Bool.true_or]
    · intro _
      exact .inl hr
  · rw [if_pos (by simp [hr])]
    by_cases hrecording : s.areWeRecordingACall = true
    · -- it stops at the end of the call
      rw [if_neg (by simp [hrecording])]
      refine ⟨{ s with stopListening := true }, rfl,
        inv_of_started hctx hlis ?_ hdetector hrun hrecord hvibrate ?_ ?_⟩
      · show s.callRecorderReceiver = (s.isServiceRunning || true)
        rw [hrec, Bool.or_true]
      · intro _
        exact hrecording
      · intro _
        exact .inr rfl
    · -- it is closed at once
      rw [if_pos (by simp [hrecording])]
      have hlisten : s.stopListening = false := by
        apply Bool.eq_false_iff.mpr
        intro hlisten
        exact hrecording (hstop hlisten)
      refine ⟨_, onClose_of_registered hctx hrec hdet,
        inv_of_started hctx hlis ?_ rfl hrun hrecord hvibrate hstop ?_⟩
      · show false = (s.isServiceRunning || s.stopListening)
        rw [Bool.eq_false_iff.mpr hr, hlisten, Bool.or_self]
      · intro hrec'
        exact absurd hrec' hrecording

/-- Starting up a manager that is open changes nothing. -/
theorem onStartup_of_open (hctx : s.mContext = true) (hlis : s.phoneStateListeners = true)
    (hrec : s.callRecorderReceiver = true) (hdet : s.outGoingNumDetector = true) :
    onStartup s = s := by
  cases s
  simp_all [onStartup]

/-- A manager that is switched on, or was on before, is open after `startIfNeeded`, whatever the
preferences say. -/
theorem Inv.startIfNeeded (h : Inv s) {status : Bool} {recordCall vibrateDuringCalls : Option Bool}
    (hon : status = true ∨ s.isServiceRunning = true) :
    startIfNeeded
      { s with recordCallPref := recordCall, vibrateDuringCallsPref := vibrateDuringCalls } status =
    onStartup
      { s with recordCallPref := recordCall, vibrateDuringCallsPref := vibrateDuringCalls } := by
  unfold CallManager.startIfNeeded
  by_cases hrun : s.isServiceRunning = true
  · rw [if_neg (by simp [hrun])]
    have hctx := h.started hrun
    have hrec : s.callRecorderReceiver = true := by
      rw [h.receiver, hctx, hrun]
      rfl
    symm
    apply onStartup_of_open
    exacts [hctx, h.listeners.trans hctx, hrec, h.detector.trans hrec]
  · rw [if_pos (by simpa [hrun] using hon)]

/-- A switch that was on, or is set to on: the callback leaves the manager as it should be. -/
theorem Inv.recordCallChanged (h : Inv s) (pref : Option Bool)
    (hon : pref.getD false = true ∨ s.isServiceRunning = true) :
    ∃ s', onRecordCallChanged { s with recordCallPref := pref } = .ok s' ∧ Inv s' := by
  have hopen : CallManager.startIfNeeded { s with recordCallPref := pref } (pref.getD false) =
    onStartup { s with recordCallPref := pref } := h.startIfNeeded hon
  show ∃ s', closeIfStopped (enableCallRecording (CallManager.startIfNeeded
    { s with recordCallPref := pref } (pref.getD false)) (pref.getD false)) = .ok s' ∧ Inv s'
  rw [hopen]
  exact closeIfStopped_inv rfl rfl rfl rfl rfl rfl h.vibrate_pref h.stop_recording

theorem Inv.vibrateDuringCallsChanged (h : Inv s) (pref : Option Bool)
    (hon : pref.getD false = true ∨ s.isServiceRunning = true) :
    ∃ s', onVibrateDuringCallsChanged { s with vibrateDuringCallsPref := pref } = .ok s' ∧
      Inv s' := by
  have hopen : CallManager.startIfNeeded { s with vibrateDuringCallsPref := pref }
    (pref.getD false) = onStartup { s with vibrateDuringCallsPref := pref } := h.startIfNeeded hon
  show ∃ s', closeIfStopped (enableCallVibration (CallManager.startIfNeeded
    { s with vibrateDuringCallsPref := pref } (pref.getD false)) (pref.getD false)) = .ok s' ∧
      Inv s'
  rw [hopen]
  exact closeIfStopped_inv rfl rfl rfl rfl rfl h.record_pref rfl h.stop_recording

/-- Switching off what is off changes nothing. -/
theorem enableCallRecording_off (h : Inv s) (hoff : s.areWeAllowedToRecordACall = false) :
    enableCallRecording s false = s := by
  have hself : enableCallRecording s s.areWeAllowedToRecordACall = s := by
    show { s with isServiceRunning :=
      s.areWeAllowedToRecordACall || s.areWeAllowedToVibrateDuringCalls } = s
    rw [← h.running]
  rwa [hoff] at hself

theorem enableCallVibration_off (h : Inv s) (hoff : s.areWeAllowedToVibrateDuringCalls = false) :
    enableCallVibration s false = s := by
  have hself : enableCallVibration s s.areWeAllowedToVibrateDuringCalls = s := by
    show { s with isServiceRunning :=
      s.areWeAllowedToRecordACall || s.areWeAllowedToVibrateDuringCalls } = s
    rw [← h.running]
  rwa [hoff] at hself

/-- The callback of a switch. Set to off for the first time, it was off anyway, and the callback
does no more than `closeIfStopped`; otherwise the switch is on, before or after. -/
theorem fineIf_of_switch {t : State} {callback : Outcome State State} {pref : Option Bool}
    {value : Bool} (hcan : CanClose t ↔ CanClose s)
    (hfirst : pref = none → value = false → Inv t ∧ callback = closeIfStopped t)
    (hon : ¬ (pref = none ∧ value = false) → ∃ s', callback = .ok s' ∧ Inv s') :
    FineIf callback (pref = none → value = false → CanClose s) := by
  by_cases hoff : pref = none ∧ value = false
  · obtain ⟨hnone, hvalue⟩ := hoff
    obtain ⟨hset, hcallback⟩ := hfirst hnone hvalue
    have hfits : (pref = none → value = false → CanClose s) ↔ CanClose t := by
      rw [hcan]
      constructor
      · intro hfits
        exact hfits hnone hvalue
      · intro hfits _ _
        exact hfits
    rw [hcallback, hfits]
    exact hset.fineIf_closeIfStopped
  · refine fineIf_of_inv ?_ (hon hoff)
    intro hnone hvalue
    exact absurd ⟨hnone, hvalue⟩ hoff

theorem Inv.fineIf_setRecordCall (h : Inv s) {value : Bool}
    (hvalue : some value ≠ s.recordCallPref) :
    FineIf (onRecordCallChanged { s with recordCallPref := some value })
      (CloseFits s (.setRecordCall value)) := by
  apply fineIf_of_switch (t := { s with recordCallPref := some value }) Iff.rfl
  · rintro hnone rfl
    have hoff : s.areWeAllowedToRecordACall = false := by
      rw [h.record_pref, hnone]
      rfl
    have hset : Inv { s with recordCallPref := some false } := { h with record_pref := hoff }
    exact ⟨hset, congrArg closeIfStopped (enableCallRecording_off hset hoff)⟩
  · intro hnot
    apply h.recordCallChanged (some value)
    rw [h.running, h.record_pref]
    cases value <;> cases hpref : s.recordCallPref <;> simp_all

theorem Inv.fineIf_setVibrateDuringCalls (h : Inv s) {value : Bool}
    (hvalue : some value ≠ s.vibrateDuringCallsPref) :
    FineIf (onVibrateDuringCallsChanged { s with vibrateDuringCallsPref := some value })
      (CloseFits s (.setVibrateDuringCalls value)) := by
  apply fineIf_of_switch (t := { s with vibrateDuringCallsPref := some value }) Iff.rfl
  · rintro hnone rfl
    have hoff : s.areWeAllowedToVibrateDuringCalls = false := by
      rw [h.vibrate_pref, hnone]
      rfl
    have hset : Inv { s with vibrateDuringCallsPref := some false } :=
      { h with vibrate_pref := hoff }
    exact ⟨hset, congrArg closeIfStopped (enableCallVibration_off hset hoff)⟩
  · intro hnot
    apply h.vibrateDuringCallsChanged (some value)
    rw [h.running, h.vibrate_pref]
    cases value <;> cases hpref : s.vibrateDuringCallsPref <;> simp_all

/-! ## Destruction -/

theorem Inv.fineIf_destroy (h : Inv s) : FineIf (onDestroy s) (CanClose s) := by
  unfold onDestroy
  by_cases hcan : CanClose s
  · obtain ⟨s₁, hclose⟩ := h.onClose_of_canClose hcan
    rw [hclose, ok_bind]
    constructor
    · refine iff_of_true ?_ hcan
      intro hd
      cases hd
    · rintro - _ ⟨⟩
      left
      rfl
  · rw [h.onClose_of_not_canClose hcan, error_bind]
    exact fineIf_of_not_registered hcan

/-! ## Whole runs -/

theorem step_of_destroyed (hd : s.destroyed = true) (e : Event) : step s e = .ok s := by
  unfold CallManager.step
  exact if_pos hd

theorem Inv.fineIf_preciseCallState (h : Inv s) (hd : s.destroyed = false)
    (hlis : s.phoneStateListeners = true) (sim : Sim) (state : PreciseCallState) (p : Platform) :
    FineIf (onPreciseCallStateChanged s state p) (CloseFits s (.preciseCallState sim state p)) := by
  have hctx : s.mContext = true := h.listeners.symm.trans hlis
  cases state with
  | active => exact h.fineIf_callStart hctx p
  | idle => exact h.fineIf_callEnd hd p
  | _ => exact fineIf_of_inv trivial ⟨s, rfl, h⟩

theorem Inv.fineIf_phoneState (h : Inv s) (hd : s.destroyed = false)
    (hrec : s.callRecorderReceiver = true) (state : PhoneState) (p : Platform) :
    FineIf (onPhoneState s state p) (CloseFits s (.phoneState state p)) := by
  cases state with
  | idle =>
      have hfits : CloseFits s (.phoneState .idle p) ↔ CallEndFits s p := by
        constructor
        · intro hfits
          exact hfits hrec
        · intro hfits _
          exact hfits
      rw [hfits]
      exact h.fineIf_callEnd hd p
  | ringing number =>
      exact fineIf_of_inv trivial ⟨_, rfl, h.withMedia { s.media with callNumber := number }⟩
  | offhook => exact fineIf_of_inv trivial ⟨s, rfl, h⟩

/-- What each event does to a living service with the invariant. -/
theorem Inv.fineIf_step (h : Inv s) (hd : s.destroyed = false) (e : Event) :
    FineIf (step s e) (CloseFits s e) := by
  unfold CallManager.step
  rw [if_neg (by simp [hd])]
  cases e with
  | setRecordCall value =>
      dsimp only
      split
      · next hvalue =>
          have hfits : CloseFits s (.setRecordCall value) := by
            intro hnone
            cases hvalue.trans hnone
          exact fineIf_of_inv hfits ⟨s, rfl, h⟩
      · next hvalue => exact h.fineIf_setRecordCall hvalue
  | setVibrateDuringCalls value =>
      dsimp only
      split
      · next hvalue =>
          have hfits : CloseFits s (.setVibrateDuringCalls value) := by
            intro hnone
            cases hvalue.trans hnone
          exact fineIf_of_inv hfits ⟨s, rfl, h⟩
      · next hvalue => exact h.fineIf_setVibrateDuringCalls hvalue
  | setDirectory value =>
      exact fineIf_of_inv trivial
        ⟨_, rfl, h.withMedia { s.media with callRecordingDirectory := value }⟩
  | preciseCallState sim state p =>
      dsimp only
      split
      · next hlis => exact h.fineIf_preciseCallState hd hlis sim state p
      · next hlis =>
          -- no listener, so no call is known of
          have hcall : ¬ s.isAcallInProgress = true := by
            intro hcall
            apply hlis
            rw [h.listeners, h.in_call hcall]
          have hfits : CloseFits s (.preciseCallState sim state p) := by
            cases state with
            | idle =>
                intro hcall'
                exact absurd hcall' hcall
            | _ => trivial
          exact fineIf_of_inv hfits ⟨s, rfl, h⟩
  | phoneState state p =>
      dsimp only
      split
      · next hrec => exact h.fineIf_phoneState hd hrec state p
      · next hrec =>
          -- the broadcast reaches nobody
          have hfits : CloseFits s (.phoneState state p) := by
            cases state with
            | idle =>
                intro hrec'
                exact absurd hrec' hrec
            | _ => trivial
          exact fineIf_of_inv hfits ⟨s, rfl, h⟩
  | newOutgoingCall number =>
      dsimp only
      split
      · unfold onNewOutgoingCall
        split
        · exact fineIf_of_inv trivial ⟨_, rfl, h.withMedia { s.media with callNumber := number }⟩
        · exact fineIf_of_inv trivial ⟨s, rfl, h⟩
      · exact fineIf_of_inv trivial ⟨s, rfl, h⟩
  | wait ms =>
      exact fineIf_of_inv trivial ⟨_, rfl, h.withMedia { s.media with looper := s.looper.wait ms }⟩
  | reset =>
      dsimp only
      split
      · next looper _ =>
          exact fineIf_of_inv trivial
            ⟨_, rfl, h.withMedia { s.media with looper := looper, areWeVibrating := false }⟩
      · exact fineIf_of_inv trivial ⟨s, rfl, h⟩
  | destroy => exact h.fineIf_destroy

/-- **In a run of the service, no receiver is unregistered that is not registered, and both are
registered whenever the manager runs, if and only if each time a call ends, a switch is set to off
for the first time or the service is destroyed, the flags fit.** -/
theorem registration_kept_iff (recordCall vibrateDuringCalls : Option Bool)
    (directory : Option String) (evs : List Event) :
    EveryStep step StaysRegistered
        (onServiceConnected (.created recordCall vibrateDuringCalls directory)) evs ↔
      EveryStep step CloseFitsAlive
        (onServiceConnected (.created recordCall vibrateDuringCalls directory)) evs := by
  -- once destroyed, the service has no invariant left, and takes no more events
  refine everyStep_iff (P := fun s => s.destroyed = true ∨ Inv s) ?_ ?_
    (.inr (inv_connected recordCall vibrateDuringCalls directory)) everyStep_true
  · intro s e s' hs _ hfits hok
    by_cases hd : s.destroyed = true
    · rw [step_of_destroyed hd] at hok
      cases hok
      exact .inl hd
    · have h : Inv s := hs.resolve_left hd
      have hd := Bool.eq_false_iff.mpr hd
      exact (h.fineIf_step hd e).keeps (hfits hd) s' hok
  · intro s e hs _
    by_cases hd : s.destroyed = true
    · have hreg : StaysRegistered s e := by
        rw [StaysRegistered, step_of_destroyed hd]
        intro hd'
        cases hd.symm.trans hd'
      have hfits : CloseFitsAlive s e := by
        intro hd'
        cases hd.symm.trans hd'
      exact iff_of_true hreg hfits
    · have h : Inv s := hs.resolve_left hd
      have hd := Bool.eq_false_iff.mpr hd
      rw [StaysRegistered, (h.fineIf_step hd e).registered_iff]
      constructor
      · intro hfits _
        exact hfits
      · intro hfits
        exact hfits hd

/-- A recorder that works. -/
def Platform.working : Platform := ⟨"/storage/emulated/0", "20210301_101500", none, none, none⟩

/-- Recording is switched on and off again, then the service is destroyed: the receivers are
unregistered a second time. Or it is switched off and on again during a recorded call: when the call
ends, the manager runs without its receivers. -/
theorem closing_does_not_fit :
    ¬ EveryStep step StaysRegistered (onServiceConnected (.created none none none))
      [.setRecordCall true, .setRecordCall false, .destroy] ∧
    ¬ EveryStep step StaysRegistered (onServiceConnected (.created (some true) none none))
      [.preciseCallState .sim1 .active .working, .setRecordCall false, .setRecordCall true,
        .preciseCallState .sim1 .idle .working] := by
  decide +kernel

end VendorRs.CallManager
