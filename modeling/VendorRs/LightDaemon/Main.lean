import VendorRs.Lib.Tokens
import VendorRs.LedLightManager.Light

/-!
# The light daemon

`main` reads four properties, cuts the three channel values at `-` with `strtok`, and writes the
LED's nodes under `/sys/class/leds`: the brightness of each channel for a steady light, the ramp for
a blinking one. Every node is written by its own stream, and a stream reaches the node when it is
closed, so `writes` lists the nodes in the order of the `close()` calls.

The tokens go into arrays that nothing initialises. A value with fewer tokens than are used makes
the daemon read an indeterminate pointer; there `writes` is `none`.

The property for blinking is read into an array of one character, so the terminating zero at least
is written behind the array. That is taken to be harmless here: no other variable is hit, and `atoi`
finds the property as it was read.
-/

namespace VendorRs.LightDaemon

open LedLightManager

inductive Channel where
  | red
  | green
  | blue
  deriving DecidableEq, Repr

/-- A file under `/sys/class/leds`: `rgbBlink` is `rgb/rgb_blink`, the others are in the directory
of their channel. -/
inductive Node where
  | brightness (c : Channel)
  | dutyPcts (c : Channel)
  | startIdx (c : Channel)
  | pauseLo (c : Channel)
  | pauseHi (c : Channel)
  | rampStepMs (c : Channel)
  | blink (c : Channel)
  | rgbBlink
  deriving DecidableEq, Repr

/-- Whether `strtok` cuts here. -/
def del (c : Char) : Bool := c = '-'

/-- The tokens of a channel value. -/
def config (light : String) : List String := (Tokens.tokens del light.toList).map String.ofList

/-- The value of the decimal digits a text starts with. -/
def leadingDigits (cs : List Char) : Nat :=
  (cs.takeWhile Char.isDigit).foldl (fun n c => n * 10 + (c.toNat - '0'.toNat)) 0

/-- C's `atoi`: blanks, a sign, as many digits as there are. -/
def atoi (text : String) : Int :=
  match text.toList.dropWhile fun c => c = ' ' ∨ ('\t' ≤ c ∧ c ≤ '\r') with
  | '-' :: cs => -(leadingDigits cs)
  | '+' :: cs => leadingDigits cs
  | cs => leadingDigits cs

/-- What a steady light writes, from token 0 of each channel. -/
def steadyWrites (red_config green_config blue_config : List String) :
    Option (List (Node × String)) := do
  let red ← red_config[0]?
  let blue ← blue_config[0]?
  let green ← green_config[0]?
  return [(.blink .red, "0"), (.blink .blue, "0"), (.blink .green, "0"),
    (.brightness .red, red), (.brightness .blue, blue), (.brightness .green, green)]

/-- What a blinking light writes, from tokens 1 to 5 of each channel. -/
def blinkWrites (red_config green_config blue_config : List String) :
    Option (List (Node × String)) := do
  let mStartIdx_red ← red_config[1]?
  let mStartIdx_blue ← blue_config[1]?
  let mStartIdx_green ← green_config[1]?
  let mDutyPcts_red ← red_config[2]?
  let mDutyPcts_blue ← blue_config[2]?
  let mDutyPcts_green ← green_config[2]?
  let mPauseLo_red ← red_config[3]?
  let mPauseLo_blue ← blue_config[3]?
  let mPauseLo_green ← green_config[3]?
  let mPauseHi_red ← red_config[4]?
  let mPauseHi_blue ← blue_config[4]?
  let mPauseHi_green ← green_config[4]?
  let mRampStepMs_red ← red_config[5]?
  let mRampStepMs_blue ← blue_config[5]?
  let mRampStepMs_green ← green_config[5]?
  return [(.startIdx .red, mStartIdx_red), (.startIdx .blue, mStartIdx_blue),
    (.startIdx .green, mStartIdx_green),
    (.dutyPcts .blue, mDutyPcts_blue), (.dutyPcts .red, mDutyPcts_red),
    (.dutyPcts .green, mDutyPcts_green),
    (.pauseLo .blue, mPauseLo_blue), (.pauseLo .red, mPauseLo_red),
    (.pauseLo .green, mPauseLo_green),
    (.pauseHi .blue, mPauseHi_blue), (.pauseHi .red, mPauseHi_red),
    (.pauseHi .green, mPauseHi_green),
    (.rampStepMs .red, mRampStepMs_red), (.rampStepMs .blue, mRampStepMs_blue),
    (.rampStepMs .green, mRampStepMs_green),
    (.rgbBlink, "1\n")]

/-- `main`, from the values it read to the nodes it writes, in order. -/
def writes (p : LightProps) : Option (List (Node × String)) := do
  let red_config := config p.redLight
  let green_config := config p.greenLight
  let blue_config := config p.blueLight
  let blink_status := atoi p.blinkLight
  let more ←
    if blink_status = 0 then steadyWrites red_config green_config blue_config
    else if blink_status = 1 then blinkWrites red_config green_config blue_config
    else some []
  -- the blinking of before is stopped first
  return (.rgbBlink, "0\n") :: more

end VendorRs.LightDaemon
