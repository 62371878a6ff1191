import VendorRs.Java.Lang
import VendorRs.Lib.Looper

/-!
# The backlight of the capacitive buttons

`MainService` writes `sys.button_backlight.on` from four places: the preference listener, the
receiver of the screen broadcasts, the key handler, and the callbacks the key handler posts. With
`buttonsBacklightControl` a key that goes down lights the buttons, and a key that comes up posts a
callback that puts the light out after the timeout, unless `clickToShutdown` says that other presses
are still to be waited for. With `buttonsBacklightControlForced` the light is to be on all the time
the screen is.
-/

namespace VendorRs.Backlight

open Java

/-- The two capacitive keys, `KEYCODE_BACK` and `KEYCODE_APP_SELECT`. -/
inductive Key where
  | back
  | appSelect
  deriving DecidableEq, Repr

structure State where
  buttonsBacklightControl : Bool
  buttonsBacklightControlForced : Bool
  capacitiveButtonsTimeoutInt : Int
  clickToShutdown : Int
  /-- The property `sys.button_backlight.on`. -/
  backlightOn : String
  /-- The callbacks posted by the key handler; they are all the same. -/
  looper : Looper Unit
  /-- What the last screen broadcast said. -/
  screenOn : Bool
  /-- The preference `buttonsBacklightEnabledForced`, if it is set. -/
  forcedPref : Option Bool
  /-- The preference `buttonsBacklightEnabled`, if it is set. -/
  enabledPref : Option Bool
  /-- The preference `capacitiveButtonsBacklightTimeout`, if it is set. -/
  timeoutPref : Option String
  deriving DecidableEq

/-- A new service in a new process, with the preferences it finds. `clickToShutdown` is a static of
`MainService`: a service that is connected again in the same process has the value that the one
before it left, and the callbacks that one posted are still to come. -/
def State.created (forced enabled : Option Bool) (timeout : Option String) (screenOn : Bool)
    (backlightOn : String) : State where
  buttonsBacklightControl := false
  buttonsBacklightControlForced := false
  capacitiveButtonsTimeoutInt := 1500
  clickToShutdown := 0
  backlightOn := backlightOn
  looper := .empty 0
  screenOn := screenOn
  forcedPref := forced
  enabledPref := enabled
  timeoutPref := timeout

/-! ## Preferences -/

/-- `capacitiveButtonsTimeoutInt` as the preference has it. -/
def readTimeout (s : State) : Outcome State State := do
  let timeout ← leaving s (valueOf (s.timeoutPref.getD "1500"))
  return { s with capacitiveButtonsTimeoutInt := timeout }

/-- The mode as the preferences have it. -/
def readForced (s : State) : State :=
  if s.forcedPref.getD false then
    { s with
      buttonsBacklightControl := false
      buttonsBacklightControlForced := true
      backlightOn := "true" }
  else
    { s with
      buttonsBacklightControl := s.enabledPref.getD false
      buttonsBacklightControlForced := false
      backlightOn := "false" }

/-- The case `buttonsBacklightEnabled` of the preference listener; it does not ask whether the light
is forced. -/
def readEnabled (s : State) : State :=
  { s with buttonsBacklightControl := s.enabledPref.getD false }

/-- The part of `onServiceConnected` about the backlight. -/
def onServiceConnected (s : State) : Outcome State State := do
  let s ← readTimeout s
  return readForced s

/-- The state after connecting with the light under control of the keys. -/
def State.controlled (timeout : Int) (screenOn : Bool) : State :=
  { State.created none (some true) (some (toString timeout)) screenOn "false" with
    buttonsBacklightControl := true
    capacitiveButtonsTimeoutInt := timeout }

/-! ## Keys and callbacks -/

/-- `handleKeyEvent` of a capacitive key that goes down. -/
def handleKeyDown (s : State) : State :=
  if s.buttonsBacklightControl then
    { s with clickToShutdown := toInt (s.clickToShutdown + 1), backlightOn := "true" }
  else s

/-- `handleKeyEvent` of a capacitive key that comes up. -/
def handleKeyUp (s : State) : State :=
  if s.buttonsBacklightControl then
    { s with looper := s.looper.post s.capacitiveButtonsTimeoutInt () }
  else s

/-- The callback. -/
def shutdown (s : State) : State :=
  let s := { s with clickToShutdown := toInt (s.clickToShutdown - 1) }
  if s.clickToShutdown ≤ 0 then { s with clickToShutdown := 0, backlightOn := "false" } else s

/-- The next callback runs, once it is due. -/
def runCallback (s : State) : State :=
  match s.looper.deliver with
  | some ((), looper) => shutdown { s with looper := looper }
  | none => s

/-! ## The screen -/

/-- The case `ACTION_SCREEN_OFF` of `mScreenStateReceiver`. -/
def onScreenOff (s : State) : State :=
  -- the callbacks posted before stay in the queue
  { s with screenOn := false, clickToShutdown := 0, backlightOn := "false" }

/-- The case `ACTION_SCREEN_ON` of `mScreenStateReceiver`. -/
def onScreenOn (s : State) : State :=
  { s with
    screenOn := true
    backlightOn := if s.buttonsBacklightControlForced then "true" else s.backlightOn }

inductive Event where
  | keyDown (key : Key)
  | keyUp (key : Key)
  | callback
  | wait (ms : Nat)
  | screenOff
  | screenOn
  | setForced (value : Bool)
  | setEnabled (value : Bool)
  | setTimeout (value : Option String)
  deriving DecidableEq, Repr

/-- One event. A preference that keeps its value makes no callback; one that gets its default for
the first time does. -/
def step (s : State) : Event → Outcome State State
  | .keyDown _ => .ok (handleKeyDown s)
  | .keyUp _ => .ok (handleKeyUp s)
  | .callback => .ok (runCallback s)
  | .wait ms => .ok { s with looper := s.looper.wait ms }
  | .screenOff => .ok (onScreenOff s)
  | .screenOn => .ok (onScreenOn s)
  | .setForced value =>
      if some value = s.forcedPref then .ok s
      else .ok (readForced { s with forcedPref := some value })
  | .setEnabled value =>
      if some value = s.enabledPref then .ok s
      else .ok (readEnabled { s with enabledPref := some value })
  | .setTimeout value =>
      if value = s.timeoutPref then .ok s else readTimeout { s with timeoutPref := value }

end VendorRs.Backlight
