import VendorRs.Java.Lang

/-!
# Helpers of the settings service

What the services share of `Utils`, on the values that are read and written.

The files are the nodes of drivers: a node is there or not, nobody can add one, and one that is
there can be read and written.
-/

namespace VendorRs.Utils

open Java

/-- `removeUnwantendStatusBarIcon`, on the secure setting `icon_blacklist`. -/
def removeUnwantendStatusBarIcon (currentBlackList : Option String) (unWantedIcon : String) :
    Option String :=
  match currentBlackList with
  | none => some ("," ++ unWantedIcon)
  | some text =>
      if contains text unWantedIcon then some text else some (text ++ "," ++ unWantedIcon)

/-- `addWantedStatusBarIconIfMissing`, which takes the icon off the blacklist. -/
def addWantedStatusBarIconIfMissing (currentBlackList : Option String) (wantedIcon : String) :
    Option String :=
  match currentBlackList with
  | none => none
  | some text => if contains text wantedIcon then some (deleteAll text wantedIcon) else some text

/-- The content of each file there is. -/
abbrev Files : Type := String → Option String

/-- The lines of the file one after the other, or nothing if it is not there. -/
def readFromFile (files : Files) (path : String) : String :=
  match files path with
  | some content => String.join (readLines content)
  | none => ""

/-- Only a file that is there can be written. -/
def writeToFile (files : Files) (path data : String) : Files := fun p =>
  if p = path then (files p).map fun _ => data else files p

/-- What is written to the vibrator for an intensity, in `int`s. -/
def vibrationLevel (value : Int) : Int :=
  let max : Int := 3596
  let min : Int := 116
  let f_value := toInt (max / 100 * value)
  if f_value < min then min + 1 else f_value

/-- `setVibrationIntensity`. Which of the two nodes is there depends on the kernel. -/
def setVibrationIntensity (files : Files) (value : String) : Except Exception Files := do
  let intensity ← valueOf value
  let f_value := toString (vibrationLevel intensity)
  let files := writeToFile files "/sys/devices/virtual/timed_output/vibrator/vtg_level" f_value
  return writeToFile files "/sys/devices/virtual/timed_output/vibrator/vmax_mv" f_value

variable {files : Files} {path p data : String}

theorem writeToFile_of_ne (h : p ≠ path) : writeToFile files path data p = files p := if_neg h

@[simp] theorem isSome_writeToFile : (writeToFile files path data p).isSome = (files p).isSome := by
  unfold writeToFile
  split <;> simp

/-- The same written to two files. -/
theorem writeToFile_twice {path' : String} :
    writeToFile (writeToFile files path data) path' data p =
      if p = path ∨ p = path' then (files p).map fun _ => data else files p := by
  unfold writeToFile
  by_cases hfirst : p = path
  · simp only [hfirst, if_true, true_or]
    split <;> simp [Function.comp_def]
  · simp only [hfirst, if_false, false_or]

/-- All that can go wrong is that the text is no number. -/
theorem setVibrationIntensity_eq (files : Files) {value : String} {n : Int}
    (h : valueOf value = .ok n) :
    setVibrationIntensity files value =
      .ok (writeToFile
        (writeToFile files "/sys/devices/virtual/timed_output/vibrator/vtg_level"
          (toString (vibrationLevel n)))
        "/sys/devices/virtual/timed_output/vibrator/vmax_mv" (toString (vibrationLevel n))) := by
  rw [setVibrationIntensity, h]
  rfl

end VendorRs.Utils
