import VendorRs.Lib.Runs
import VendorRs.CallManager.Spec

/-!
# What becomes of the recorders

`startRecording` constructs a recorder, and either starts it or gives it up; `stopRecording`
releases the one that runs. Of what may throw on the way only `prepare` is looked after: its two
exceptions are caught, and the recorder is released. An exception from anywhere else leaves the
callback, and with it whatever was done so far.

`RecorderInv` says what holds between the callbacks: every recorder is released, except the one that
runs, which is the last and the one `mCallRecorder` refers to. `resources_freed_iff` then says
exactly which callbacks go wrong.
-/

namespace VendorRs.CallManager

open Java Runs

/-! ## What should hold, and when it does -/

inductive CallEvent where
  | starting (p : Platform)
  | ending (p : Platform)
  deriving DecidableEq, Repr

def CallEvent.handle (s : State) : CallEvent → Outcome State State
  | .starting p => manageCallStarting s p
  | .ending p => manageCallEnding s p

/-- The start or the end of a call that the event reports, if it reaches the manager. -/
def callOf (s : State) (e : Event) : Option CallEvent :=
  if s.destroyed then none
  else match e with
    | .preciseCallState _ .active p => if s.phoneStateListeners then some (.starting p) else none
    | .preciseCallState _ .idle p => if s.phoneStateListeners then some (.ending p) else none
    | .phoneState .idle p => if s.callRecorderReceiver then some (.ending p) else none
    | _ => none

def AllReleased (s : State) : Prop := ∀ r ∈ s.recorders, r.released = true

/-- No exception comes out of it, and if it is the end of a call, nothing is recorded any more and
no recorder is left. -/
def CallEvent.Freed (s : State) (c : CallEvent) : Prop :=
  (c.handle s).isOk = true ∧
    match c with
    | .starting _ => True
    | .ending _ => ∀ s', c.handle s = .ok s' → s'.areWeRecordingACall = false ∧ AllReleased s'

def ResourcesFreed (s : State) (e : Event) : Prop := ∀ c ∈ callOf s e, c.Freed s

/-- If a recording is to start, the directory is not `/sdcard` itself, `prepare` throws nothing but
what is caught, and `start` nothing. -/
def RecorderStarts (s : State) (p : Platform) : Prop :=
  s.areWeAllowedToRecordACall = true → s.areWeRecordingACall = false →
    s.callRecordingDirectory ≠ some "/sdcard" ∧ p.prepare ≠ some .runtime ∧
      (p.prepare = none → p.start = none)

/-- If the manager is to be closed, its receivers are registered, unless it was never started. -/
def ClosesWell (s : State) : Prop :=
  s.stopListening = true ∨ s.isServiceRunning = false → s.mContext = true →
    s.callRecorderReceiver = true ∧ s.outGoingNumDetector = true

/-- If a call was in progress, the recorder that runs stops, and the manager can be closed if it is
to be. -/
def RecorderStops (s : State) (p : Platform) : Prop :=
  s.isAcallInProgress = true →
    (s.areWeRecordingACall = true → p.stop = none) ∧ ClosesWell s

def CallEvent.Works (s : State) : CallEvent → Prop
  | .starting p => RecorderStarts s p
  | .ending p => RecorderStops s p

def RecorderWorks (s : State) (e : Event) : Prop := ∀ c ∈ callOf s e, c.Works s

instance (s : State) : Decidable (AllReleased s) := inferInstanceAs (Decidable (∀ r ∈ _, _))

instance (s : State) (c : CallEvent) : Decidable (c.Freed s) := by
  unfold CallEvent.Freed
  cases c <;> infer_instance

instance (s : State) (e : Event) : Decidable (ResourcesFreed s e) :=
  inferInstanceAs (Decidable (∀ c ∈ callOf s e, _))

variable {s s' : State} {p : Platform} {e : Event} {c : CallEvent}

/-! ## Where the recorders are -/

/-- The recorders, and what is known about them. -/
structure Recording where
  recorders : List Recorder
  mCallRecorder : Option Nat
  areWeRecordingACall : Bool
  isAcallInProgress : Bool

def State.recording (s : State) : Recording :=
  ⟨s.recorders, s.mCallRecorder, s.areWeRecordingACall, s.isAcallInProgress⟩

/-- Every recorder is released but the one that runs, which is the last. -/
structure RecorderInv (s : State) : Prop where
  idle : s.areWeRecordingACall = false → AllReleased s
  running : s.areWeRecordingACall = true → ∃ before last, s.recorders = before ++ [last] ∧
    s.mCallRecorder = some before.length ∧ ∀ r ∈ before, r.released = true

/-- Between two callbacks it only runs during a call. -/
structure CallInv (s : State) : Prop extends RecorderInv s where
  in_call : s.areWeRecordingACall = true → s.isAcallInProgress = true

theorem RecorderInv.of_recorders_eq (h : RecorderInv s) (hrecorders : s'.recorders = s.recorders)
    (hcurrent : s'.mCallRecorder = s.mCallRecorder)
    (hrecording : s'.areWeRecordingACall = s.areWeRecordingACall) : RecorderInv s' := by
  constructor
  · rw [AllReleased, hrecorders, hrecording]
    exact h.idle
  · rw [hrecorders, hcurrent, hrecording]
    exact h.running

theorem CallInv.of_recording_eq (h : CallInv s) (hs : s'.recording = s.recording) :
    CallInv s' := by
  simp only [State.recording, Recording.mk.injEq] at hs
  obtain ⟨hrecorders, hcurrent, hrecording, hcall⟩ := hs
  constructor
  · exact h.of_recorders_eq hrecorders hcurrent hrecording
  · rw [hrecording, hcall]
    exact h.in_call

/-- Between two calls every recorder is released. -/
theorem CallInv.freed (h : CallInv s) (hcall : s.isAcallInProgress = false) :
    s.areWeRecordingACall = false ∧ AllReleased s := by
  have hidle : s.areWeRecordingACall = false := by
    by_contra hrecording
    rw [Bool.not_eq_false] at hrecording
    rw [h.in_call hrecording] at hcall
    cases hcall
  exact ⟨hidle, h.idle hidle⟩

theorem callInv_connected (recordCall vibrateDuringCalls : Option Bool)
    (directory : Option String) :
    CallInv (onServiceConnected (.created recordCall vibrateDuringCalls directory)) := by
  have hcreated : CallInv (.created recordCall vibrateDuringCalls directory) :=
    ⟨⟨fun _ => List.forall_mem_nil _, nofun⟩, nofun⟩
  apply hcreated.of_recording_eq
  unfold onServiceConnected
  dsimp only
  split <;> rfl

/-! ## Starting a recorder -/

/-- `startsWith("/sdcard")` is true of seven characters, and `substring(8)` wants eight. -/
theorem substring_sdcard {directory : String} (h : startsWith directory "/sdcard" = true) :
    (∃ part, substring directory 8 = .ok part) ↔ directory ≠ "/sdcard" := by
  have hstart : "/sdcard".toList <+: directory.toList := List.isPrefixOf_iff_prefix.mp h
  obtain ⟨rest, hrest⟩ := hstart
  have hlen : directory.length = 7 + rest.length := by
    rw [← String.length_toList, ← hrest, List.length_append]
    rfl
  have heq : directory = "/sdcard" ↔ rest = [] := by
    rw [← String.toList_inj, ← hrest, List.append_right_eq_self]
  rw [Ne, heq, substring]
  cases rest with
  | nil => simp [hlen]
  | cons c cs =>
      have hle : 8 ≤ directory.length := by
        rw [hlen, List.length_cons]
        omega
      rw [if_pos hle]
      simp

theorem recordingFile_ok {directory number : Option String} :
    (∃ file, recordingFile p directory number = .ok file) ↔ directory ≠ some "/sdcard" := by
  have hdefault : directory.getD "CallRecording" = "/sdcard" ↔ directory = some "/sdcard" := by
    cases directory <;> simp
  unfold recordingFile
  dsimp only
  by_cases hstart : startsWith (directory.getD "CallRecording") "/sdcard" = true
  · rw [if_pos hstart, Ne, ← hdefault, ← Ne, ← substring_sdcard hstart]
    cases substring (directory.getD "CallRecording") 8 <;> simp [pure, Except.pure]
  · rw [if_neg hstart]
    refine iff_of_true ⟨_, rfl⟩ ?_
    rintro rfl
    exact hstart rfl

theorem modify_concat {α : Type} (l : List α) (a : α) (f : α → α) :
    (l ++ [a]).modify l.length f = l ++ [f a] := by
  induction l with
  | nil => rfl
  | cons b l ih => simp [ih]

/-- The state once a recorder has been constructed, and what was done to it. -/
def State.withRecorder (s : State) (r : Recorder) : State :=
  { s with recorders := s.recorders ++ [r], mCallRecorder := some s.recorders.length }

theorem onRecorder_withRecorder (s : State) (r : Recorder) (f : Recorder → Recorder) :
    onRecorder (s.withRecorder r) f = s.withRecorder (f r) := by
  simp [onRecorder, State.withRecorder, modify_concat]

/-- What comes of a new recorder that writes to this file. -/
theorem startRecording_eq {file : String} (hidle : s.areWeRecordingACall = false)
    (hfile : recordingFile p s.callRecordingDirectory s.callNumber = .ok file) :
    startRecording s p =
      match p.prepare, p.start with
      | some .illegalState, _ => .ok (s.withRecorder ⟨some file, true⟩)
      | some .io, _ => .ok (s.withRecorder ⟨some file, true⟩)
      | some .runtime, _ => .error (.runtime, s.withRecorder ⟨some file, false⟩)
      | none, some x => .error (x.toException, s.withRecorder ⟨some file, false⟩)
      | none, none =>
          .ok { s.withRecorder ⟨some file, false⟩ with areWeRecordingACall := true } := by
  have hnew : newRecorder s = s.withRecorder ⟨none, false⟩ := rfl
  unfold startRecording
  rw [if_neg (by simp [hidle])]
  dsimp only
  rw [hnew, show (s.withRecorder ⟨none, false⟩).callRecordingDirectory =
    s.callRecordingDirectory from rfl, show (s.withRecorder ⟨none, false⟩).callNumber =
    s.callNumber from rfl, hfile, leaving_ok, ok_bind, releaseRecorder, onRecorder_withRecorder,
    onRecorder_withRecorder]
  cases p.prepare with
  | none => cases p.start <;> rfl
  | some x => cases x <;> rfl

theorem startRecording_isOk (hidle : s.areWeRecordingACall = false) :
    (startRecording s p).isOk = true ↔ s.callRecordingDirectory ≠ some "/sdcard" ∧
      p.prepare ≠ some .runtime ∧ (p.prepare = none → p.start = none) := by
  by_cases hdir : s.callRecordingDirectory = some "/sdcard"
  · refine iff_of_false ?_ fun hfits => hfits.1 hdir
    have hnone : ¬ ∃ file, recordingFile p s.callRecordingDirectory s.callNumber = .ok file := by
      rw [recordingFile_ok]
      exact not_not.mpr hdir
    have hthrows : ∃ x, startRecording s p = .error x := by
      unfold startRecording
      rw [if_neg (by simp [hidle])]
      dsimp only
      rw [show (newRecorder s).callRecordingDirectory = s.callRecordingDirectory from rfl,
        show (newRecorder s).callNumber = s.callNumber from rfl]
      cases hfile : recordingFile p s.callRecordingDirectory s.callNumber with
      | ok file => exact absurd ⟨file, hfile⟩ hnone
      | error x => exact ⟨_, rfl⟩
    obtain ⟨x, hx⟩ := hthrows
    rw [hx]
    exact Bool.false_ne_true
  · obtain ⟨file, hfile⟩ := recordingFile_ok.mpr hdir
    rw [startRecording_eq hidle hfile]
    rcases hprepare : p.prepare with _ | x
    · cases hstart : p.start <;> simp [hdir, Except.isOk, Except.toBool]
    · cases x <;> simp [hdir, Except.isOk, Except.toBool]

theorem RecorderInv.startRecording (h : RecorderInv s) (hcall : s.isAcallInProgress = true)
    (hidle : s.areWeRecordingACall = false) (hok : startRecording s p = .ok s') : CallInv s' := by
  have hworks := (startRecording_isOk hidle).mp (by rw [hok]; rfl)
  obtain ⟨file, hfile⟩ := recordingFile_ok.mpr hworks.1
  rw [startRecording_eq hidle hfile] at hok
  have hgiven_up : CallInv (s.withRecorder ⟨some file, true⟩) := by
    refine ⟨⟨?_, ?_⟩, ?_⟩
    · intro _ r hr
      rcases List.mem_append.mp hr with hr | hr
      · exact h.idle hidle r hr
      · rw [List.mem_singleton.mp hr]
    · intro hrecording
      cases hidle.symm.trans hrecording
    · intro hrecording
      cases hidle.symm.trans hrecording
  cases hprepare : p.prepare with
  | some x =>
      rw [hprepare] at hok
      cases x with
      | illegalState =>
          cases hok
          exact hgiven_up
      | io =>
          cases hok
          exact hgiven_up
      | runtime => cases hok
  | none =>
      rw [hprepare, hworks.2.2 hprepare] at hok
      cases hok
      refine ⟨⟨nofun, ?_⟩, ?_⟩
      · intro _
        exact ⟨s.recorders, ⟨some file, false⟩, rfl, rfl, h.idle hidle⟩
      · intro _
        exact hcall

/-! ## Stopping it -/

/-- The recorder that runs is the only one not yet released. -/
theorem RecorderInv.stopRecorder (h : RecorderInv s)
    (hstop : s.areWeRecordingACall = true → p.stop = none) :
    ∃ recorders current, stopRecorder s p = .ok
        { s with recorders := recorders, mCallRecorder := current, areWeRecordingACall := false } ∧
      ∀ r ∈ recorders, r.released = true := by
  unfold VendorRs.CallManager.stopRecorder
  by_cases hrecording : s.areWeRecordingACall = true
  · obtain ⟨before, last, hrecorders, hcurrent, hbefore⟩ := h.running hrecording
    have hreleased : releaseRecorder s =
        { s with recorders := before ++ [{ last with released := true }] } := by
      simp [releaseRecorder, onRecorder, hcurrent, hrecorders, modify_concat]
    rw [if_pos hrecording, hstop hrecording, hreleased]
    refine ⟨before ++ [{ last with released := true }], none, rfl, ?_⟩
    intro r hr
    rcases List.mem_append.mp hr with hr | hr
    · exact hbefore r hr
    · rw [List.mem_singleton.mp hr]
  · have hidle : s.areWeRecordingACall = false := Bool.eq_false_iff.mpr hrecording
    refine ⟨s.recorders, s.mCallRecorder, ?_, h.idle hidle⟩
    rw [if_neg hrecording, ← hidle]
    rfl

theorem onClose_isOk :
    (onClose s).isOk = true ↔
      (s.mContext = true → s.callRecorderReceiver = true ∧ s.outGoingNumDetector = true) := by
  unfold onClose
  cases s.mContext <;> cases s.callRecorderReceiver <;> cases s.outGoingNumDetector <;>
    simp [Except.isOk, Except.toBool, pure, Except.pure, throw, throwThe,
      MonadExceptOf.throw]

theorem onClose_recording (h : onClose s = .ok s') : s'.recording = s.recording := by
  obtain ⟨f, hflags⟩ := onClose_left s
  rw [← Outcome.left_of_ok h, hflags]
  rfl

/-! ## Calls -/

/-- Whether it vibrates or not has nothing to do with the rest. -/
theorem vibrateIfAllowed_eq (s : State) :
    ∃ vibrating vibrations looper, vibrateIfAllowed s =
      { s with areWeVibrating := vibrating, vibrations := vibrations, looper := looper } := by
  unfold vibrateIfAllowed vibrate
  dsimp only
  split
  · split <;> exact ⟨_, _, _, rfl⟩
  · exact ⟨_, _, _, rfl⟩

theorem CallInv.starting (h : CallInv s) (p : Platform) :
    ((manageCallStarting s p).isOk = true ↔ RecorderStarts s p) ∧
      ∀ s', manageCallStarting s p = .ok s' → CallInv s' := by
  obtain ⟨vibrating, vibrations, looper, hvibrate⟩ :=
    vibrateIfAllowed_eq { s with isAcallInProgress := true }
  unfold manageCallStarting RecorderStarts
  dsimp only
  rw [hvibrate]
  dsimp only
  have hinv : CallInv { s with
      isAcallInProgress := true, areWeVibrating := vibrating, vibrations := vibrations,
      looper := looper } := ⟨h.of_recorders_eq rfl rfl rfl, fun _ => rfl⟩
  by_cases hallow : s.areWeAllowedToRecordACall = true
  · rw [if_neg (by simp [hallow])]
    by_cases hrecording : s.areWeRecordingACall = true
    · -- a call that is being recorded goes on
      rw [if_neg (by simp [hrecording])]
      constructor
      · exact iff_of_true rfl fun _ hidle => absurd hrecording (Bool.eq_false_iff.mp hidle)
      · rintro s' ⟨⟩
        exact hinv
    · have hidle := Bool.eq_false_iff.mpr hrecording
      rw [if_pos (by simp [hidle])]
      constructor
      · refine Iff.trans (startRecording_isOk hidle) ?_
        exact ⟨fun hfits _ _ => hfits, fun hfits => hfits hallow hidle⟩
      · intro s' hok
        exact hinv.startRecording rfl hidle hok
  · rw [if_pos (by simp [hallow])]
    constructor
    · exact iff_of_true rfl fun hallow' => absurd hallow' hallow
    · rintro s' ⟨⟩
      exact hinv

theorem RecorderInv.stopRecording (h : RecorderInv s) (p : Platform) :
    ((stopRecording s p).isOk = true ↔
      (s.areWeRecordingACall = true → p.stop = none) ∧ ClosesWell s) ∧
      ∀ s', stopRecording s p = .ok s' → s'.areWeRecordingACall = false ∧ AllReleased s' := by
  unfold VendorRs.CallManager.stopRecording
  by_cases hstop : s.areWeRecordingACall = true → p.stop = none
  · obtain ⟨recorders, current, hstopped, hreleased⟩ := h.stopRecorder hstop
    rw [hstopped, ok_bind]
    dsimp only
    by_cases hclose : (s.stopListening || !s.isServiceRunning) = true
    · rw [if_pos hclose]
      constructor
      · rw [onClose_isOk, and_iff_right hstop]
        exact ⟨fun hfits _ => hfits, fun hfits => hfits (by simpa using hclose)⟩
      · intro s' hok
        have hsame := onClose_recording hok
        simp only [State.recording, Recording.mk.injEq] at hsame
        rw [AllReleased, hsame.1, hsame.2.2.1]
        exact ⟨rfl, hreleased⟩
    · rw [if_neg hclose]
      constructor
      · exact iff_of_true rfl ⟨hstop, fun hclose' => absurd hclose' (by simpa using hclose)⟩
      · rintro s' ⟨⟩
        exact ⟨rfl, hreleased⟩
  · -- the recorder goes on running, and `mCallRecorder` refers to it
    obtain ⟨hrecording, hne⟩ := Classical.not_imp.mp hstop
    obtain ⟨x, hx⟩ := Option.ne_none_iff_exists'.mp hne
    rw [stopRecorder_throws hrecording hx, error_bind]
    constructor
    · exact iff_of_false Bool.false_ne_true fun hfits => hstop hfits.1
    · intro s' hok
      cases hok

theorem CallInv.ending (h : CallInv s) (p : Platform) :
    ((manageCallEnding s p).isOk = true ↔ RecorderStops s p) ∧
      ∀ s', manageCallEnding s p = .ok s' → s'.areWeRecordingACall = false ∧ AllReleased s' := by
  by_cases hcall : s.isAcallInProgress = true
  · obtain ⟨vibrating, vibrations, looper, hvibrate⟩ :=
      vibrateIfAllowed_eq { s with isAcallInProgress := false }
    have hinv : RecorderInv { s with
        isAcallInProgress := false, areWeVibrating := vibrating, vibrations := vibrations,
        looper := looper } := h.of_recorders_eq rfl rfl rfl
    obtain ⟨hok, hfreed⟩ := hinv.stopRecording p
    rw [manageCallEnding, if_neg (by simp [hcall]), hvibrate]
    refine ⟨hok.trans ?_, hfreed⟩
    exact ⟨fun hfits _ => hfits, fun hfits => hfits hcall⟩
  · rw [manageCallEnding_idle (Bool.eq_false_iff.mpr hcall)]
    constructor
    · exact iff_of_true rfl fun hcall' => absurd hcall' hcall
    · rintro s' ⟨⟩
      exact h.freed (Bool.eq_false_iff.mpr hcall)

/-! ## Everything else leaves the recorders alone -/

theorem step_of_call (h : callOf s e = some c) : step s e = c.handle s := by
  unfold callOf at h
  unfold step
  split at h
  · cases h
  · next hdestroyed =>
      rw [if_neg hdestroyed]
      split at h
      · split at h <;> cases h
        next hlistening => exact if_pos hlistening
      · split at h <;> cases h
        next hlistening => exact if_pos hlistening
      · split at h <;> cases h
        next hregistered => exact if_pos hregistered
      · cases h

/-- What any other event does: the clock goes on, a reset runs, or something changes that has
nothing to do with recorders and vibrations. -/
theorem step_cases (hcall : callOf s e = none) :
    (∃ ms, e = .wait ms ∧ step s e = .ok { s with looper := s.looper.wait ms }) ∨
    (∃ looper, e = .reset ∧ s.looper.deliver = some ((), looper) ∧
      step s e = .ok { s with looper := looper, areWeVibrating := false }) ∨
    ∃ x, (step s e).left = s.withSettings x := by
  unfold step
  by_cases hdestroyed : s.destroyed = true
  · rw [if_pos hdestroyed]
    exact .inr (.inr ⟨s.settings, rfl⟩)
  · unfold callOf at hcall
    rw [if_neg hdestroyed] at hcall ⊢
    cases e with
    | wait ms => exact .inl ⟨ms, rfl, rfl⟩
    | reset =>
        right
        cases hdeliver : s.looper.deliver with
        | some delivered =>
            obtain ⟨⟨⟩, looper⟩ := delivered
            exact .inl ⟨looper, rfl, rfl, rfl⟩
        | none => exact .inr ⟨s.settings, rfl⟩
    | setRecordCall value =>
        right; right
        dsimp only
        split
        · exact ⟨s.settings, rfl⟩
        · obtain ⟨f, hflags⟩ := onRecordCallChanged_left { s with recordCallPref := some value }
          exact ⟨{ s.settings with flags := f, recordCallPref := some value }, hflags⟩
    | setVibrateDuringCalls value =>
        right; right
        dsimp only
        split
        · exact ⟨s.settings, rfl⟩
        · obtain ⟨f, hflags⟩ :=
            onVibrateDuringCallsChanged_left { s with vibrateDuringCallsPref := some value }
          exact ⟨{ s.settings with flags := f, vibrateDuringCallsPref := some value }, hflags⟩
    | setDirectory value =>
        exact .inr (.inr ⟨{ s.settings with callRecordingDirectory := value }, rfl⟩)
    | preciseCallState sim state p =>
        right; right
        dsimp only
        split
        · next hlistening =>
            cases state with
            | active => simp [hlistening] at hcall
            | idle => simp [hlistening] at hcall
            | _ => exact ⟨s.settings, rfl⟩
        · exact ⟨s.settings, rfl⟩
    | phoneState state p =>
        right; right
        dsimp only
        split
        · next hregistered =>
            cases state with
            | idle => simp [hregistered] at hcall
            | ringing incomingNumber =>
                exact ⟨{ s.settings with callNumber := incomingNumber }, rfl⟩
            | offhook => exact ⟨s.settings, rfl⟩
        · exact ⟨s.settings, rfl⟩
    | newOutgoingCall phoneNumber =>
        right; right
        dsimp only
        unfold onNewOutgoingCall
        split
        · split
          · exact ⟨{ s.settings with callNumber := phoneNumber }, rfl⟩
          · exact ⟨s.settings, rfl⟩
        · exact ⟨s.settings, rfl⟩
    | destroy => exact .inr (.inr (onDestroy_left s))

theorem step_recording (hcall : callOf s e = none) : (step s e).left.recording = s.recording := by
  rcases step_cases hcall with ⟨ms, -, hstep⟩ | ⟨looper, -, -, hstep⟩ | ⟨x, hstep⟩
  · rw [hstep]
    rfl
  · rw [hstep]
    rfl
  · rw [hstep]
    rfl

/-! ## Runs -/

theorem CallInv.freed_iff (h : CallInv s) (e : Event) : ResourcesFreed s e ↔ RecorderWorks s e := by
  apply forall_congr'
  intro c
  apply imp_congr_right
  intro _
  cases c with
  | starting p =>
      refine Iff.trans ?_ (h.starting p).1
      exact and_iff_left trivial
  | ending p =>
      refine Iff.trans ?_ (h.ending p).1
      exact and_iff_left (h.ending p).2

theorem CallInv.step (h : CallInv s) (hok : step s e = .ok s') : CallInv s' := by
  cases hcall : callOf s e with
  | none => exact h.of_recording_eq (Outcome.left_of_ok hok ▸ step_recording hcall)
  | some c =>
      rw [step_of_call hcall] at hok
      cases c with
      | starting p => exact (h.starting p).2 s' hok
      | ending p =>
          obtain ⟨hidle, hreleased⟩ := (h.ending p).2 s' hok
          refine ⟨⟨fun _ => hreleased, ?_⟩, ?_⟩
          · intro hrecording
            cases hidle.symm.trans hrecording
          · intro hrecording
            cases hidle.symm.trans hrecording

/-- **No exception escapes and no recorder is left**, in every run of the service, exactly as long
as nothing else throws than what is looked after. -/
theorem resources_freed_iff (recordCall vibrateDuringCalls : Option Bool)
    (directory : Option String) (evs : List Event) :
    let connected := onServiceConnected (.created recordCall vibrateDuringCalls directory)
    EveryStep step ResourcesFreed connected evs ↔ EveryStep step RecorderWorks connected evs := by
  apply everyStep_iff (P := CallInv) (B := fun _ _ => True)
  · intro s e s' h _ _ hok
    exact h.step hok
  · intro s e h _
    exact h.freed_iff e
  · exact callInv_connected recordCall vibrateDuringCalls directory
  · exact everyStep_true

/-- The directory is that of the card itself; or the recorder of a short call does not stop. -/
theorem recorder_not_freed :
    let p : Platform := ⟨"/storage/emulated/0", "20210301_101500", none, none, some .runtime⟩
    ¬ EveryStep step ResourcesFreed
        (onServiceConnected (.created (some true) none (some "/sdcard")))
        [.preciseCallState .sim1 .active p] ∧
      ¬ EveryStep step ResourcesFreed (onServiceConnected (.created (some true) none none))
        [.preciseCallState .sim1 .active p, .preciseCallState .sim1 .idle p] := by
  decide

end VendorRs.CallManager
