import VendorRs.Utils

/-!
# Pocket mode

While the screen is off `PocketModeService` listens to the proximity sensor, and tells the
fingerprint reader and the touch panel when something is near. `MainService` starts and stops it
with the screen, and switches the touch panel to `tp_f4` the same way.

All of it depends on settings that are read when the screen is switched: the preference
`pocketModeEnabled`, the secure setting `double_tap_to_wake`, and the node `double_tap_enable` of
the touch panel, which the system keeps up to date with that setting in its own time.
-/

namespace VendorRs.PocketMode

open Java Utils

def cheeseburgerFile : String := "/sys/devices/soc/soc:fpc_fpc1020/proximity_state"

def dumplingFile : String := "/sys/devices/soc/soc:goodix_fp/proximity_state"

def cheeseburgerTouchFile : String := "/proc/touchpanel/proximity_state"

def dozeWakeupNode : String := "/proc/touchpanel/tp_f4"

def doubleTapToWakeNode : String := "/proc/touchpanel/double_tap_enable"

structure State where
  /-- The preference, if it is set. -/
  pocketModeEnabled : Option Bool
  /-- The secure setting `double_tap_to_wake`, if it is set. -/
  doubleTapToWake : Option Int
  files : Files
  /-- `FPC_FILE`. -/
  fpcFile : String
  /-- `mSensorManager` and `mSensor` are not `null`. -/
  hasSensor : Bool
  doubleTapToWakeEnabled : Bool
  /-- The service is registered with the sensor manager. -/
  listening : Bool
  /-- The last broadcast handled was `SCREEN_ON`. -/
  screenOn : Bool

/-! ## The service -/

/-- `ProximitySensor`: look for the node of the fingerprint reader. -/
def proximitySensor (s : State) : State :=
  let s := { s with hasSensor := true }
  if (s.files cheeseburgerFile).isSome then { s with fpcFile := cheeseburgerFile }
  else if (s.files dumplingFile).isSome then { s with fpcFile := dumplingFile }
  else { s with fpcFile := cheeseburgerFile }

def setFPProximityState (s : State) (isNear : Bool) : State :=
  if (s.files s.fpcFile).isSome then
    let s := { s with files := writeToFile s.files s.fpcFile (if isNear then "1" else "0") }
    if s.doubleTapToWakeEnabled && isNear then
      { s with files := writeToFile s.files cheeseburgerTouchFile "1" }
    else if s.doubleTapToWakeEnabled && !isNear then
      { s with files := writeToFile s.files cheeseburgerTouchFile "0" }
    else s
  else s

/-- `isNear` says that the distance is less than the maximum range of the sensor. -/
def onSensorChanged (s : State) (isNear : Bool) : State := setFPProximityState s isNear

def enable (s : State) : Outcome State State :=
  let s :=
    { s with doubleTapToWakeEnabled := decide (readFromFile s.files doubleTapToWakeNode = "1") }
  if s.hasSensor then .ok { s with listening := true } else .error (.nullPointer, s)

def disable (s : State) : Outcome State State :=
  if s.hasSensor then .ok (setFPProximityState { s with listening := false } false)
  else .error (.nullPointer, s)

/-! ## `MainService` -/

/-- The preference as it is read. -/
def State.isPocketModeEnabled (s : State) : Bool := s.pocketModeEnabled.getD false

/-- The name is the source's; the setting is that of double tap to wake. -/
def State.isAlwaysOnDisplayEnabled (s : State) : Bool := decide (s.doubleTapToWake.getD 0 ≠ 0)

/-- `onServiceConnected`, as far as pocket mode is concerned. Nothing is assumed of what is in the
files. -/
def State.connected (pocketModeEnabled : Option Bool) (doubleTapToWake : Option Int)
    (files : Files) : State :=
  let s : State :=
    ⟨pocketModeEnabled, doubleTapToWake, files, "", false, false, false, false⟩
  if s.isPocketModeEnabled then proximitySensor s else s

/-- `mScreenStateReceiver` for `SCREEN_OFF`. -/
def onScreenOff (s : State) : Outcome State State :=
  let s := { s with screenOn := false }
  let s :=
    if s.isAlwaysOnDisplayEnabled then { s with files := writeToFile s.files dozeWakeupNode "1" }
    else s
  if s.isPocketModeEnabled then enable s else .ok s

/-- `mScreenStateReceiver` for `SCREEN_ON`. -/
def onScreenOn (s : State) : Outcome State State :=
  let s := { s with screenOn := true }
  let s :=
    if s.isAlwaysOnDisplayEnabled then { s with files := writeToFile s.files dozeWakeupNode "0" }
    else s
  if s.isPocketModeEnabled then disable s else .ok s

/-- `mPreferenceListener` for `pocketModeEnabled`. -/
def onPocketModeChanged (s : State) : State :=
  if s.isPocketModeEnabled then proximitySensor s else s

inductive Event where
  | screenOff
  | screenOn
  | sensorChanged (isNear : Bool)
  | setPocketMode (value : Bool)
  | setDoubleTapToWake (value : Int)
  /-- The system writes `double_tap_enable`. -/
  | doubleTapNode (content : String)
  deriving DecidableEq, Repr

/-- Without a listener there are no sensor events, and the preference listener is told of a value
that is new only. -/
def step (s : State) : Event → Outcome State State
  | .screenOff => onScreenOff s
  | .screenOn => onScreenOn s
  | .sensorChanged isNear => .ok (if s.listening then onSensorChanged s isNear else s)
  | .setPocketMode value =>
      if s.pocketModeEnabled = some value then .ok s
      else .ok (onPocketModeChanged { s with pocketModeEnabled := some value })
  | .setDoubleTapToWake value => .ok { s with doubleTapToWake := some value }
  | .doubleTapNode content =>
      .ok { s with files := writeToFile s.files doubleTapToWakeNode content }

end VendorRs.PocketMode
