import VendorRs.CallManager.Basic

/-!
# What the parts of the call manager do

One result for each function that the callbacks are made of. Recorders, vibrations and the number of
the caller are data that no flag depends on; `State.withMedia` says that only they change, so the
results about registration and about recording can pass over them.
-/

namespace VendorRs.CallManager

open Java

variable {s s' : State} {p : Platform}

/-! ## Data that no flag depends on -/

structure Media where
  areWeVibrating : Bool
  callNumber : Option String
  recorders : List Recorder
  mCallRecorder : Option Nat
  vibrations : List Nat
  looper : Looper Unit
  callRecordingDirectory : Option String

def State.withMedia (s : State) (m : Media) : State :=
  { s with
    areWeVibrating := m.areWeVibrating
    callNumber := m.callNumber
    recorders := m.recorders
    mCallRecorder := m.mCallRecorder
    vibrations := m.vibrations
    looper := m.looper
    callRecordingDirectory := m.callRecordingDirectory }

def State.media (s : State) : Media :=
  ⟨s.areWeVibrating, s.callNumber, s.recorders, s.mCallRecorder, s.vibrations, s.looper,
    s.callRecordingDirectory⟩

theorem vibrateIfAllowed_spec (s : State) : ∃ m, vibrateIfAllowed s = s.withMedia m := by
  unfold vibrateIfAllowed
  split
  · unfold vibrate
    split <;> exact ⟨⟨_, _, _, _, _, _, _⟩, rfl⟩
  · exact ⟨s.media, rfl⟩

theorem onRecorder_spec (s : State) (f : Recorder → Recorder) :
    ∃ m, onRecorder s f = s.withMedia m := by
  unfold onRecorder
  split
  · exact ⟨⟨_, _, _, _, _, _, _⟩, rfl⟩
  · exact ⟨s.media, rfl⟩

/-! ## Recording -/

/-- If `startRecording` returns, it has started a recorder or given one up. -/
theorem startRecording_spec (h : startRecording s p = .ok s') :
    ∃ m recording, s' = { s.withMedia m with areWeRecordingACall := recording } ∧
      (s.areWeRecordingACall = true → recording = true) := by
  unfold startRecording at h
  split at h
  · next hrec =>
      cases h
      refine ⟨s.media, true, ?_, ?_⟩
      · rw [← hrec]
        rfl
      · intro _
        rfl
  · next hrec =>
      simp only [bind_eq_ok, leaving_eq_ok] at h
      obtain ⟨filepath, -, h⟩ := h
      obtain ⟨m, hm⟩ := onRecorder_spec (newRecorder s) fun r =>
        { r with outputFile := some filepath }
      rw [hm] at h
      have hgiven_up : ∃ m', releaseRecorder ((newRecorder s).withMedia m) = s.withMedia m' :=
        onRecorder_spec ((newRecorder s).withMedia m) fun r => { r with released := true }
      obtain ⟨m', hm'⟩ := hgiven_up
      -- the recorder is released after either checked exception, escapes, or starts
      split at h
      · obtain rfl : releaseRecorder ((newRecorder s).withMedia m) = s' := Except.ok.inj h
        exact ⟨m', s.areWeRecordingACall, hm', id⟩
      · obtain rfl : releaseRecorder ((newRecorder s).withMedia m) = s' := Except.ok.inj h
        exact ⟨m', s.areWeRecordingACall, hm', id⟩
      · cases h
      · split at h
        · cases h
        · cases h
          exact ⟨m, true, rfl, fun _ => rfl⟩

theorem RecorderException.toException_ne (x : RecorderException) :
    x.toException ≠ .receiverNotRegistered := by
  cases x <;> simp [RecorderException.toException]

/-- The path can only fail to be cut. -/
theorem recordingFile_error {directory number : Option String} {x : Exception}
    (h : recordingFile p directory number = .error x) : x = .indexOutOfBounds := by
  unfold recordingFile substring at h
  dsimp only at h
  split at h
  · split at h
    · cases h
    · cases h
      rfl
  · cases h

/-- Whatever `startRecording` throws, it has nothing to do with receivers. -/
theorem startRecording_error {x : Exception} (h : startRecording s p = .error (x, s')) :
    x ≠ .receiverNotRegistered := by
  unfold startRecording at h
  split at h
  · cases h
  · dsimp only at h
    cases hfile : recordingFile p (newRecorder s).callRecordingDirectory
        (newRecorder s).callNumber with
    | error y =>
        rw [hfile, leaving_error, error_bind] at h
        cases h
        rw [recordingFile_error hfile]
        simp
    | ok filepath =>
        rw [hfile, leaving_ok, ok_bind] at h
        split at h
        · cases h
        · cases h
        · cases h
          simp
        · split at h
          · next y _ =>
              cases h
              exact y.toException_ne
          · cases h

/-- `stopRecorder` throws exactly if a recorder runs and its `stop` does. -/
theorem stopRecorder_throws {x : RecorderException} (hrec : s.areWeRecordingACall = true)
    (hstop : p.stop = some x) : stopRecorder s p = .error (x.toException, s) := by
  rw [stopRecorder, if_pos hrec, hstop]
  rfl

theorem stopRecorder_spec (h : s.areWeRecordingACall = true → p.stop = none) :
    ∃ m, stopRecorder s p = .ok { s.withMedia m with areWeRecordingACall := false } := by
  unfold stopRecorder
  split
  · next hrec =>
      rw [h hrec]
      obtain ⟨m, hm⟩ := onRecorder_spec s fun r => { r with released := true }
      refine ⟨{ m with mCallRecorder := none }, ?_⟩
      rw [releaseRecorder, hm]
      rfl
  · next hrec =>
      refine ⟨s.media, ?_⟩
      rw [← Bool.eq_false_iff.mpr hrec]
      rfl

/-! ## Closing -/

theorem onClose_of_registered (hctx : s.mContext = true) (hrec : s.callRecorderReceiver = true)
    (hdet : s.outGoingNumDetector = true) :
    onClose s = .ok { s with callRecorderReceiver := false, outGoingNumDetector := false } := by
  simp [onClose, hctx, hrec, hdet, pure, Except.pure]

theorem onClose_not_registered (hctx : s.mContext = true) (hrec : s.callRecorderReceiver = false) :
    onClose s = .error (.receiverNotRegistered, s) := by
  simp [onClose, hctx, hrec, throw, throwThe, MonadExceptOf.throw]

theorem onClose_without_context (hctx : s.mContext = false) : onClose s = .ok s := by
  simp [onClose, hctx, pure, Except.pure]

/-! ## Switches change nothing but flags -/

structure Flags where
  mContext : Bool
  callRecorderReceiver : Bool
  outGoingNumDetector : Bool
  phoneStateListeners : Bool
  stopListening : Bool
  areWeAllowedToRecordACall : Bool
  areWeAllowedToVibrateDuringCalls : Bool
  isServiceRunning : Bool

def State.withFlags (s : State) (f : Flags) : State :=
  { s with
    mContext := f.mContext
    callRecorderReceiver := f.callRecorderReceiver
    outGoingNumDetector := f.outGoingNumDetector
    phoneStateListeners := f.phoneStateListeners
    stopListening := f.stopListening
    areWeAllowedToRecordACall := f.areWeAllowedToRecordACall
    areWeAllowedToVibrateDuringCalls := f.areWeAllowedToVibrateDuringCalls
    isServiceRunning := f.isServiceRunning }

def State.flags (s : State) : Flags :=
  ⟨s.mContext, s.callRecorderReceiver, s.outGoingNumDetector, s.phoneStateListeners,
    s.stopListening, s.areWeAllowedToRecordACall, s.areWeAllowedToVibrateDuringCalls,
    s.isServiceRunning⟩

theorem onClose_left (s : State) : ∃ f, (onClose s).left = s.withFlags f := by
  unfold onClose
  split
  · exact ⟨s.flags, rfl⟩
  · split
    · exact ⟨s.flags, rfl⟩
    · dsimp only
      split
      · exact ⟨{ s.flags with callRecorderReceiver := false }, rfl⟩
      · exact ⟨{ s.flags with callRecorderReceiver := false, outGoingNumDetector := false }, rfl⟩

theorem closeIfStopped_left (s : State) : ∃ f, (closeIfStopped s).left = s.withFlags f := by
  unfold closeIfStopped
  split
  · split
    · exact onClose_left s
    · exact ⟨{ s.flags with stopListening := true }, rfl⟩
  · exact ⟨s.flags, rfl⟩

theorem startIfNeeded_flags (s : State) (status : Bool) :
    ∃ f, startIfNeeded s status = s.withFlags f := by
  unfold startIfNeeded
  split
  · exact ⟨{ s.flags with
      mContext := true, callRecorderReceiver := true, outGoingNumDetector := true,
      phoneStateListeners := true }, rfl⟩
  · exact ⟨s.flags, rfl⟩

theorem onRecordCallChanged_left (s : State) :
    ∃ f, (onRecordCallChanged s).left = s.withFlags f := by
  obtain ⟨g, hstart⟩ := startIfNeeded_flags s (s.recordCallPref.getD false)
  obtain ⟨f, hclose⟩ := closeIfStopped_left
    (enableCallRecording (s.withFlags g) (s.recordCallPref.getD false))
  refine ⟨f, ?_⟩
  rw [onRecordCallChanged, hstart]
  exact hclose

theorem onVibrateDuringCallsChanged_left (s : State) :
    ∃ f, (onVibrateDuringCallsChanged s).left = s.withFlags f := by
  obtain ⟨g, hstart⟩ := startIfNeeded_flags s (s.vibrateDuringCallsPref.getD false)
  obtain ⟨f, hclose⟩ := closeIfStopped_left
    (enableCallVibration (s.withFlags g) (s.vibrateDuringCallsPref.getD false))
  refine ⟨f, ?_⟩
  rw [onVibrateDuringCallsChanged, hstart]
  exact hclose

/-! ## What has nothing to do with recorders and vibrations -/

structure Settings where
  flags : Flags
  callNumber : Option String
  callRecordingDirectory : Option String
  recordCallPref : Option Bool
  vibrateDuringCallsPref : Option Bool
  destroyed : Bool

def State.withSettings (s : State) (x : Settings) : State :=
  { s.withFlags x.flags with
    callNumber := x.callNumber
    callRecordingDirectory := x.callRecordingDirectory
    recordCallPref := x.recordCallPref
    vibrateDuringCallsPref := x.vibrateDuringCallsPref
    destroyed := x.destroyed }

def State.settings (s : State) : Settings :=
  ⟨s.flags, s.callNumber, s.callRecordingDirectory, s.recordCallPref, s.vibrateDuringCallsPref,
    s.destroyed⟩

theorem onDestroy_left (s : State) : ∃ x, (onDestroy s).left = s.withSettings x := by
  obtain ⟨f, hflags⟩ := onClose_left s
  unfold onDestroy
  cases hclose : onClose s with
  | ok s' =>
      rw [hclose] at hflags
      refine ⟨{ s.settings with flags := f, destroyed := true }, ?_⟩
      rw [ok_bind]
      exact congrArg (fun s : State => { s with destroyed := true }) hflags
  | error x =>
      rw [hclose] at hflags
      exact ⟨{ s.settings with flags := f }, hflags⟩

/-! ## Calls -/

/-- The state once a call has started. -/
def State.callStarted (s : State) (m : Media) (recording : Bool) : State :=
  { s.withMedia m with isAcallInProgress := true, areWeRecordingACall := recording }

/-- The state once a call has ended and its recorder was stopped. -/
def State.callEnded (s : State) (m : Media) : State :=
  { s.withMedia m with isAcallInProgress := false, areWeRecordingACall := false }

/-- The same, when the manager is to be closed with it. -/
def State.callEndedToClose (s : State) (m : Media) : State :=
  { s.callEnded m with stopListening := false }

/-- The start of a call sets `isAcallInProgress`, and may start a recording if that is allowed. -/
theorem manageCallStarting_spec (h : manageCallStarting s p = .ok s') :
    ∃ m recording, s' = s.callStarted m recording ∧
      (s.areWeRecordingACall = true → recording = true) ∧
      (s.areWeAllowedToRecordACall = false → recording = s.areWeRecordingACall) := by
  unfold manageCallStarting at h
  obtain ⟨m, hm⟩ := vibrateIfAllowed_spec { s with isAcallInProgress := true }
  rw [hm] at h
  dsimp only at h
  split at h
  · -- recording is not allowed
    cases h
    exact ⟨m, s.areWeRecordingACall, rfl, id, fun _ => rfl⟩
  · next hallow =>
      have hallow : ¬ s.areWeAllowedToRecordACall = false := by simpa [State.withMedia] using hallow
      split at h
      · obtain ⟨m', recording, hs', hrec⟩ := startRecording_spec h
        refine ⟨m', recording, hs', hrec, ?_⟩
        intro hnot
        exact absurd hnot hallow
      · -- a call is being recorded already
        cases h
        exact ⟨m, s.areWeRecordingACall, rfl, id, fun _ => rfl⟩

/-- A call that is being recorded goes on being recorded. -/
theorem manageCallStarting_of_recording (hrec : s.areWeRecordingACall = true) :
    ∃ m, manageCallStarting s p = .ok (s.callStarted m s.areWeRecordingACall) := by
  obtain ⟨m, hm⟩ := vibrateIfAllowed_spec { s with isAcallInProgress := true }
  have hsame : State.withMedia { s with isAcallInProgress := true } m =
      s.callStarted m s.areWeRecordingACall := rfl
  refine ⟨m, ?_⟩
  unfold manageCallStarting
  rw [hm, hsame]
  dsimp only
  split
  · rfl
  · exact if_neg (by simp [State.callStarted, hrec])

theorem manageCallStarting_error {x : Exception}
    (h : manageCallStarting s p = .error (x, s')) : x ≠ .receiverNotRegistered := by
  unfold manageCallStarting at h
  dsimp only at h
  split at h
  · cases h
  · split at h
    · exact startRecording_error h
    · cases h

/-- The end of a call: the recorder is stopped, and the manager closed if it is to be. -/
theorem manageCallEnding_spec (hcall : s.isAcallInProgress = true)
    (hstop : s.areWeRecordingACall = true → p.stop = none) :
    ∃ m, manageCallEnding s p =
      if s.stopListening || !s.isServiceRunning then onClose (s.callEndedToClose m)
      else .ok (s.callEnded m) := by
  obtain ⟨m, hm⟩ := vibrateIfAllowed_spec { s with isAcallInProgress := false }
  have hstop' : (({ s with isAcallInProgress := false } : State).withMedia m).areWeRecordingACall =
      true → p.stop = none := hstop
  obtain ⟨m', hm'⟩ := stopRecorder_spec hstop'
  refine ⟨m', ?_⟩
  rw [manageCallEnding, if_neg (by simp [hcall]), hm, stopRecording, hm', ok_bind]
  rfl

theorem manageCallEnding_throws {x : RecorderException} (hcall : s.isAcallInProgress = true)
    (hrec : s.areWeRecordingACall = true) (hstop : p.stop = some x) :
    ∃ s', manageCallEnding s p = .error (x.toException, s') := by
  obtain ⟨m, hm⟩ := vibrateIfAllowed_spec { s with isAcallInProgress := false }
  refine ⟨State.withMedia { s with isAcallInProgress := false } m, ?_⟩
  rw [manageCallEnding, if_neg (by simp [hcall]), hm, stopRecording,
    stopRecorder_throws (s := State.withMedia { s with isAcallInProgress := false } m) hrec hstop,
    error_bind]

theorem manageCallEnding_idle (hcall : s.isAcallInProgress = false) :
    manageCallEnding s p = .ok s := by
  rw [manageCallEnding, if_pos (by simp [hcall])]
  rfl

end VendorRs.CallManager
