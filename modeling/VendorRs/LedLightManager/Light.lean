import VendorRs.Java.Lang

/-!
# What a LED command is, and how it is written into properties

`setColor` takes a colour, a blink flag and two durations, all but the flag as texts. It parses
them, and writes one property a channel, six fields joined by `-`:

    brightness - start index - duty list - pause_lo - pause_hi - ramp_step_ms

The three channel functions of the source differ only in the start index and the property they
write; `lightValue` is their common body.
-/

namespace VendorRs.LedLightManager

open Java

/-- The arguments of a `setColor` call. -/
structure Command where
  hexColor : String
  blink : Bool
  onMs : String
  offMs : String
  deriving DecidableEq, Repr

/-- `turnOffLed`. -/
def Command.off : Command := ⟨"000000", false, "0", "0"⟩

/-- Charging, battery not yet full. -/
def Command.yellow : Command := ⟨"FFFF00", false, "0", "0"⟩

/-- Battery full. -/
def Command.green : Command := ⟨"00FF00", false, "0", "0"⟩

/-! ## Colours -/

/-- `Color.parseColor` of a text that starts with `#`, the only kind `setColor` builds: the rest is
a hexadecimal `long`, of six characters (then opaque) or eight. All its characters are digits or a
sign by then, so counting characters and counting `char`s is the same. -/
def parseColor (colorString : String) : Except Exception (BitVec 32) := do
  let color ← parseLong (String.ofList (colorString.toList.drop 1)) 16
  if colorString.length = 7 then
    return (BitVec.ofInt 64 color ||| 0xff000000#64).setWidth 32
  else if colorString.length ≠ 9 then
    throw .illegalArgument
  else
    return (BitVec.ofInt 64 color).setWidth 32

/-- `Color.red`. -/
def red (color : BitVec 32) : Nat := (color.extractLsb' 16 8).toNat

/-- `Color.green`. -/
def green (color : BitVec 32) : Nat := (color.extractLsb' 8 8).toNat

/-- `Color.blue`. -/
def blue (color : BitVec 32) : Nat := (color.extractLsb' 0 8).toNat

/-! ## Channel properties -/

def rampSize : Nat := 8

def rampStepDuration : Nat := 50

def brightnessRamp : List Nat := [0, 12, 25, 37, 50, 72, 85, 100]

/-- `Utils.removeLastChars`. -/
def removeLastChars (str : String) (chars : Nat) : String :=
  String.ofList (str.toList.take (str.length - chars))

/-- The brightness ramp scaled to the channel, comma-separated. -/
def getScaledDutyPcts (brightness : Nat) : String :=
  let buf := brightnessRamp.foldl (fun buf i => buf ++ toString (i * brightness / 255) ++ ",") ""
  removeLastChars buf 1

/-- The ramp step: shortened when the whole ramp does not fit into `onMs`. -/
def mRampStepMs (onMs : Int) : Int :=
  if rampStepDuration * rampSize * 2 > onMs then onMs.tdiv (rampSize * 2) else rampStepDuration

/-- What is left of `onMs` after the ramp. -/
def mPauseHi (onMs : Int) : Int :=
  if rampStepDuration * rampSize * 2 > onMs then 0
  else toInt (onMs - rampStepDuration * rampSize * 2)

/-- The value of a channel property; the common body of the three `set*Light` functions. -/
def lightValue (mStartIdx value : Nat) (onMs offMs : Int) : String :=
  toString value ++ "-" ++ toString mStartIdx ++ "-" ++ getScaledDutyPcts value ++ "-" ++
    toString offMs ++ "-" ++ toString (mPauseHi onMs) ++ "-" ++ toString (mRampStepMs onMs)

def setRedLight (value : Nat) (onMs offMs : Int) : String := lightValue 0 value onMs offMs

def setGreenLight (value : Nat) (onMs offMs : Int) : String := lightValue rampSize value onMs offMs

def setBlueLight (value : Nat) (onMs offMs : Int) : String :=
  lightValue (2 * rampSize) value onMs offMs

/-- The properties `sys.blink_light`, `sys.red_light`, `sys.green_light` and `sys.blue_light`. -/
structure LightProps where
  blinkLight : String
  redLight : String
  greenLight : String
  blueLight : String
  deriving DecidableEq, Repr

/-- What `setColor` writes once its arguments are parsed. -/
def lightProps (blink : Bool) (color : BitVec 32) (onMs offMs : Int) : LightProps where
  blinkLight := if blink then "1" else "0"
  redLight := setRedLight (red color) onMs offMs
  greenLight := setGreenLight (green color) onMs offMs
  blueLight := setBlueLight (blue color) onMs offMs

/-! ## Commands that parse -/

/-- The properties a command encodes, or the exception `setColor` ends with on it. -/
def Command.encode (c : Command) : Except Exception LightProps := do
  let color ← parseColor ("#" ++ c.hexColor)
  let onMs ← valueOf c.onMs
  let offMs ← valueOf c.offMs
  return lightProps c.blink color onMs offMs

/-- The colour is one `Color.parseColor` accepts, and both durations are 32-bit integers. -/
def Command.Parses (c : Command) : Prop :=
  ∃ color onMs offMs, parseColor ("#" ++ c.hexColor) = .ok color ∧ valueOf c.onMs = .ok onMs ∧
    valueOf c.offMs = .ok offMs

instance (c : Command) : Decidable c.Parses :=
  match hcolor : parseColor ("#" ++ c.hexColor), hon : valueOf c.onMs, hoff : valueOf c.offMs with
  | .ok color, .ok onMs, .ok offMs => isTrue ⟨color, onMs, offMs, hcolor, hon, hoff⟩
  | .error _, _, _ => isFalse fun ⟨_, _, _, h, _, _⟩ => nomatch hcolor.symm.trans h
  | .ok _, .error _, _ => isFalse fun ⟨_, _, _, _, h, _⟩ => nomatch hon.symm.trans h
  | .ok _, .ok _, .error _ => isFalse fun ⟨_, _, _, _, _, h⟩ => nomatch hoff.symm.trans h

theorem Command.parses_off : Command.off.Parses := ⟨0xff000000#32, 0, 0, by decide⟩

theorem Command.parses_yellow : Command.yellow.Parses := ⟨0xffffff00#32, 0, 0, by decide⟩

theorem Command.parses_green : Command.green.Parses := ⟨0xff00ff00#32, 0, 0, by decide⟩

end VendorRs.LedLightManager
