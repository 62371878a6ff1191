import VendorRs.Java.Lang
import VendorRs.Lib.Looper

/-!
# The call manager

`CallManager` records calls and vibrates when one starts or ends. `MainService` switches it on and
off from its preference listener, and closes it when it is destroyed itself. This file models the
whole of `CallManager` and those parts of `MainService` that call it, as one step function over the
callbacks.

What a callback asks of the platform (where the files go, what time it is, whether the recorder
works) comes with the event, in a `Platform`.
-/

namespace VendorRs.CallManager

open Java

/-- `PreciseCallState.getForegroundCallState()`. -/
inductive PreciseCallState where
  | notValid
  | idle
  | active
  | holding
  | dialing
  | alerting
  | incoming
  | waiting
  | disconnected
  | disconnecting
  deriving DecidableEq, Repr

/-- `TelephonyManager.EXTRA_STATE`, with the number that comes with a ringing phone. -/
inductive PhoneState where
  | idle
  | ringing (incomingNumber : Option String)
  | offhook
  deriving DecidableEq, Repr

inductive Sim where
  | sim1
  | sim2
  deriving DecidableEq, Repr

/-- What the calls of a `MediaRecorder` may throw. -/
inductive RecorderException where
  | illegalState
  | io
  | runtime
  deriving DecidableEq, Repr

def RecorderException.toException : RecorderException → Exception
  | .illegalState => .illegalState
  | .io => .io
  | .runtime => .runtime

/-- What the platform does during one callback. -/
structure Platform where
  externalStorageDirectory : String
  currentDateandTime : String
  prepare : Option RecorderException
  start : Option RecorderException
  stop : Option RecorderException
  deriving DecidableEq, Repr

/-- A `MediaRecorder` that was constructed. -/
structure Recorder where
  outputFile : Option String
  released : Bool
  deriving DecidableEq, Repr

structure State where
  /-- Whether `mContext` is set; it is once `onStartup` ran. -/
  mContext : Bool
  /-- Whether `CallRecorderReceiver` is registered. -/
  callRecorderReceiver : Bool
  /-- Whether `OutGoingNumDetector` is registered. -/
  outGoingNumDetector : Bool
  /-- Whether the listeners of the two SIMs are; nothing ever takes them off. -/
  phoneStateListeners : Bool
  areWeRecordingACall : Bool
  areWeVibrating : Bool
  stopListening : Bool
  areWeAllowedToRecordACall : Bool
  areWeAllowedToVibrateDuringCalls : Bool
  isServiceRunning : Bool
  isAcallInProgress : Bool
  callNumber : Option String
  /-- Every recorder constructed so far. -/
  recorders : List Recorder
  /-- The one `mCallRecorder` refers to, as an index. -/
  mCallRecorder : Option Nat
  /-- The times at which `Utils.vibrate` was executed. -/
  vibrations : List Nat
  /-- The resets of `areWeVibrating` that were posted. -/
  looper : Looper Unit
  /-- The preference `areWeAllowedToRecordCall`, if it is set. -/
  recordCallPref : Option Bool
  /-- The preference `areWeAllowedToVibrateDuringCalls`, if it is set. -/
  vibrateDuringCallsPref : Option Bool
  /-- The preference `callRecordingDirectory`, if it is set. -/
  callRecordingDirectory : Option String
  /-- Whether `MainService.onDestroy` has run. -/
  destroyed : Bool
  deriving DecidableEq

/-! ## Registration -/

/-- `onStartup`. Registering a receiver that is registered already changes nothing here. -/
def onStartup (s : State) : State :=
  { s with
    mContext := true
    callRecorderReceiver := true
    outGoingNumDetector := true
    phoneStateListeners := true }

def onClose (s : State) : Outcome State State := do
  if !s.mContext then
    return s
  if !s.callRecorderReceiver then
    throw (.receiverNotRegistered, s)
  let s := { s with callRecorderReceiver := false }
  if !s.outGoingNumDetector then
    throw (.receiverNotRegistered, s)
  return { s with outGoingNumDetector := false }

/-- `isServiceRunning` follows the two switches. -/
def enableService (s : State) : State :=
  { s with isServiceRunning := s.areWeAllowedToRecordACall || s.areWeAllowedToVibrateDuringCalls }

def enableCallRecording (s : State) (status : Bool) : State :=
  enableService { s with areWeAllowedToRecordACall := status }

def enableCallVibration (s : State) (status : Bool) : State :=
  enableService { s with areWeAllowedToVibrateDuringCalls := status }

/-! ## Recording -/

/-- The file `startRecording` writes to. -/
def recordingFile (p : Platform) (directoryPref callNumber : Option String) :
    Except Exception String := do
  let callRecordingDirectory := directoryPref.getD "CallRecording"
  let callRecordingDirectory ←
    if startsWith callRecordingDirectory "/sdcard" then substring callRecordingDirectory 8
    else .ok callRecordingDirectory
  let callRecordingDirectory :=
    if callRecordingDirectory.isEmpty then "CallRecording" else callRecordingDirectory
  let filepath := p.externalStorageDirectory ++ "/" ++ callRecordingDirectory
  let filepath := replaceAll filepath '\\' '/'
  return filepath ++ "/" ++ p.currentDateandTime ++ "_" ++ callNumber.getD "null" ++ ".amr"

example : recordingFile ⟨"/storage/emulated/0", "20210301_101500", none, none, none⟩
    (some "/sdcard/calls\\in") (some "123") =
      .ok "/storage/emulated/0/calls/in/20210301_101500_123.amr" := by decide

/-- `new MediaRecorder()`, kept in `mCallRecorder`. -/
def newRecorder (s : State) : State :=
  { s with
    recorders := s.recorders ++ [⟨none, false⟩]
    mCallRecorder := some s.recorders.length }

/-- A change to the recorder `mCallRecorder` refers to. -/
def onRecorder (s : State) (f : Recorder → Recorder) : State :=
  match s.mCallRecorder with
  | some i => { s with recorders := s.recorders.modify i f }
  | none => s

/-- `mCallRecorder.release()`. -/
def releaseRecorder (s : State) : State := onRecorder s fun r => { r with released := true }

/-- `startRecording`. Only the two checked exceptions of `prepare` are caught. -/
def startRecording (s : State) (p : Platform) : Outcome State State := do
  if s.areWeRecordingACall then
    return s
  let s := newRecorder s
  let filepath ← leaving s (recordingFile p s.callRecordingDirectory s.callNumber)
  let s := onRecorder s fun r => { r with outputFile := some filepath }
  match p.prepare with
  -- `mCallRecorder` goes on referring to the recorder that was released
  | some .illegalState | some .io => return releaseRecorder s
  | some .runtime => throw (.runtime, s)
  | none =>
      match p.start with
      | some x => throw (x.toException, s)
      | none => return { s with areWeRecordingACall := true }

/-- The first half of `stopRecording`. -/
def stopRecorder (s : State) (p : Platform) : Outcome State State :=
  if s.areWeRecordingACall then
    match p.stop with
    | some x => throw (x.toException, s)
    | none => return { releaseRecorder s with mCallRecorder := none, areWeRecordingACall := false }
  else return s

def stopRecording (s : State) (p : Platform) : Outcome State State := do
  let s ← stopRecorder s p
  -- reached at the end of every call, whether or not it was recorded
  if s.stopListening || !s.isServiceRunning then
    onClose { s with stopListening := false }
  else
    return s

/-! ## Calls -/

/-- `vibrate`: a reset is posted even when nothing vibrates. -/
def vibrate (s : State) (length : Nat) : State :=
  let s :=
    if s.areWeVibrating then s
    else { s with areWeVibrating := true, vibrations := s.vibrations ++ [s.looper.now] }
  { s with looper := s.looper.post (length + 50) () }

def vibrateIfAllowed (s : State) : State :=
  if s.areWeAllowedToVibrateDuringCalls then vibrate s 300 else s

def manageCallStarting (s : State) (p : Platform) : Outcome State State :=
  let s := vibrateIfAllowed { s with isAcallInProgress := true }
  if !s.areWeAllowedToRecordACall then return s
  else if !s.areWeRecordingACall then startRecording s p
  else return s

def manageCallEnding (s : State) (p : Platform) : Outcome State State :=
  if !s.isAcallInProgress then return s
  else stopRecording (vibrateIfAllowed { s with isAcallInProgress := false }) p

/-- `onPreciseCallStateChanged`, the same for both SIMs. -/
def onPreciseCallStateChanged (s : State) (state : PreciseCallState) (p : Platform) :
    Outcome State State :=
  match state with
  | .active => manageCallStarting s p
  | .idle => manageCallEnding s p
  | _ => return s

/-- `CallRecorderReceiver`. -/
def onPhoneState (s : State) (state : PhoneState) (p : Platform) : Outcome State State :=
  match state with
  | .idle => manageCallEnding s p
  | .ringing incomingNumber => return { s with callNumber := incomingNumber }
  | .offhook => return s

/-- `OutGoingNumDetector`. -/
def onNewOutgoingCall (s : State) (phoneNumber : Option String) : State :=
  if s.areWeAllowedToRecordACall then { s with callNumber := phoneNumber } else s

/-! ## The service around it -/

/-- What `MainService` does after a switch was changed: it closes the manager, at once or, while a
call is recorded, at its end. -/
def closeIfStopped (s : State) : Outcome State State :=
  if !s.isServiceRunning then
    if !s.areWeRecordingACall then onClose s else return { s with stopListening := true }
  else return s

/-- Switching the manager on starts it up, unless it runs. -/
def startIfNeeded (s : State) (status : Bool) : State :=
  if status && !s.isServiceRunning then onStartup s else s

/-- The case `areWeAllowedToRecordCall` of the preference listener. -/
def onRecordCallChanged (s : State) : Outcome State State :=
  let areWeAllowedToRecordCall := s.recordCallPref.getD false
  closeIfStopped
    (enableCallRecording (startIfNeeded s areWeAllowedToRecordCall) areWeAllowedToRecordCall)

/-- The case `areWeAllowedToVibrateDuringCalls` of the preference listener. -/
def onVibrateDuringCallsChanged (s : State) : Outcome State State :=
  let areWeAllowedToVibrateDuringCalls := s.vibrateDuringCallsPref.getD false
  closeIfStopped
    (enableCallVibration (startIfNeeded s areWeAllowedToVibrateDuringCalls)
      areWeAllowedToVibrateDuringCalls)

/-- A new `MainService` with its `CallManager`, and the preferences it finds. -/
def State.created (recordCall vibrateDuringCalls : Option Bool) (directory : Option String) :
    State where
  mContext := false
  callRecorderReceiver := false
  outGoingNumDetector := false
  phoneStateListeners := false
  areWeRecordingACall := false
  areWeVibrating := false
  stopListening := false
  areWeAllowedToRecordACall := false
  areWeAllowedToVibrateDuringCalls := false
  isServiceRunning := false
  isAcallInProgress := false
  callNumber := none
  recorders := []
  mCallRecorder := none
  vibrations := []
  looper := .empty 0
  recordCallPref := recordCall
  vibrateDuringCallsPref := vibrateDuringCalls
  callRecordingDirectory := directory
  destroyed := false

/-- The part of `onServiceConnected` about calls. -/
def onServiceConnected (s : State) : State :=
  let areWeAllowedToVibrateDuringCalls := s.vibrateDuringCallsPref.getD false
  let areWeAllowedToRecordCall := s.recordCallPref.getD false
  if areWeAllowedToVibrateDuringCalls || areWeAllowedToRecordCall then
    enableCallVibration (enableCallRecording (onStartup s) areWeAllowedToRecordCall)
      areWeAllowedToVibrateDuringCalls
  else s

/-- The part of `onDestroy` about calls. -/
def onDestroy (s : State) : Outcome State State := do
  let s ← onClose s
  return { s with destroyed := true }

inductive Event where
  /-- The user sets the switch to this value. -/
  | setRecordCall (value : Bool)
  | setVibrateDuringCalls (value : Bool)
  | setDirectory (value : Option String)
  | preciseCallState (sim : Sim) (state : PreciseCallState) (p : Platform)
  | phoneState (state : PhoneState) (p : Platform)
  | newOutgoingCall (phoneNumber : Option String)
  | wait (ms : Nat)
  /-- The next reset of `areWeVibrating` runs. -/
  | reset
  | destroy
  deriving DecidableEq, Repr

/-- One event of a service that is connected. A preference that keeps its value makes no callback,
but one that gets its default for the first time does; a broadcast reaches a receiver only while it
is registered, and nothing happens once the service is destroyed. -/
def step (s : State) (e : Event) : Outcome State State :=
  if s.destroyed then return s
  else match e with
    | .setRecordCall value =>
        if some value = s.recordCallPref then return s
        else onRecordCallChanged { s with recordCallPref := some value }
    | .setVibrateDuringCalls value =>
        if some value = s.vibrateDuringCallsPref then return s
        else onVibrateDuringCallsChanged { s with vibrateDuringCallsPref := some value }
    | .setDirectory value => return { s with callRecordingDirectory := value }
    | .preciseCallState _ state p =>
        if s.phoneStateListeners then onPreciseCallStateChanged s state p else return s
    | .phoneState state p => if s.callRecorderReceiver then onPhoneState s state p else return s
    | .newOutgoingCall phoneNumber =>
        if s.outGoingNumDetector then return onNewOutgoingCall s phoneNumber else return s
    | .wait ms => return { s with looper := s.looper.wait ms }
    | .reset =>
        match s.looper.deliver with
        | some ((), looper) => return { s with looper := looper, areWeVibrating := false }
        | none => return s
    | .destroy => onDestroy s

end VendorRs.CallManager
