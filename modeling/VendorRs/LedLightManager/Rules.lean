import VendorRs.Java.Lang

/-!
# The rule table of the LED manager

The configuration file has one rule a line, `package,string,colour[,blink,onMs,offMs]`. `loadConfig`
keeps the rules in six parallel lists, and everything else in the service reads them by index.

The lists are modelled as the source has them, six columns side by side (`RuleTable`). What they are
*for* is one list of rules; `RuleTable.ofRules` lays such a list out in columns, and
`loadConfigText_eq_ofRules` says that the table is always of that form, whatever the text: a line
that fails half way through takes all six lists with it.
-/

namespace VendorRs.LedLightManager

open Java

/-- One rule. The durations stay texts until `setColor` parses them. -/
structure Rule where
  app : String
  string : String
  color : String
  blink : Bool
  onMs : String
  offMs : String
  deriving DecidableEq, Repr

/-- The six `enabled*` lists. -/
structure RuleTable where
  enabledApps : List String
  enabledStringForApps : List String
  enabledColorsForApps : List String
  enabledBlinkForApps : List Bool
  enabledOnMsForApps : List String
  enabledOffMsForApps : List String
  deriving DecidableEq, Repr

namespace RuleTable

def empty : RuleTable := ⟨[], [], [], [], [], []⟩

/-- One `add` to each of the six lists. -/
def add (t : RuleTable) (r : Rule) : RuleTable where
  enabledApps := t.enabledApps ++ [r.app]
  enabledStringForApps := t.enabledStringForApps ++ [r.string]
  enabledColorsForApps := t.enabledColorsForApps ++ [r.color]
  enabledBlinkForApps := t.enabledBlinkForApps ++ [r.blink]
  enabledOnMsForApps := t.enabledOnMsForApps ++ [r.onMs]
  enabledOffMsForApps := t.enabledOffMsForApps ++ [r.offMs]

/-- A list of rules, laid out in columns. -/
def ofRules (rules : List Rule) : RuleTable where
  enabledApps := rules.map Rule.app
  enabledStringForApps := rules.map Rule.string
  enabledColorsForApps := rules.map Rule.color
  enabledBlinkForApps := rules.map Rule.blink
  enabledOnMsForApps := rules.map Rule.onMs
  enabledOffMsForApps := rules.map Rule.offMs

@[simp] theorem ofRules_add (rules : List Rule) (r : Rule) :
    (ofRules rules).add r = ofRules (rules ++ [r]) := by
  simp [add, ofRules]

end RuleTable

/-! ## Reading the configuration -/

/-- The body of the `try` in `loadConfig`: the fields of one line, or the exception that stops it.
Each `add` of the source stands where its value is read; the `catch` clears all six lists, so what a
failing line had already added is never seen. -/
def parseLine (line : String) : Except Exception Rule := do
  let lineArray := split ',' line
  let app ← getAt lineArray 0
  let string ← getAt lineArray 1
  let color ← getAt lineArray 2
  if lineArray.length > 3 then
    let fourth ← getAt lineArray 3
    if fourth = "blink" then
      let onMs ← getAt lineArray 4
      let offMs ← getAt lineArray 5
      return ⟨app, string, color, true, onMs, offMs⟩
    else
      return ⟨app, string, color, false, "0", "0"⟩
  else
    return ⟨app, string, color, false, "0", "0"⟩

/-- The `while` loop of `loadConfig` over the lines still to be read: it stops at the first empty
line, and a line that cannot be read empties the table and goes on. -/
def loadLines (t : RuleTable) : List String → RuleTable
  | [] => t
  | line :: rest =>
      if line.isEmpty then t
      else match parseLine line with
        | .ok r => loadLines (t.add r) rest
        -- the rules of the lines before are lost with it
        | .error _ => loadLines .empty rest

/-- `loadConfig` on the text it obtained: an empty text leaves the table as it was. -/
def loadConfigText (t : RuleTable) (data : String) : RuleTable :=
  if data.isEmpty then t else loadLines .empty (readLines data)

/-- `Utils.convertStreamToString`: the lines of the file, joined by `\n`. -/
def convertStreamToString (content : String) : String := "\n".intercalate (readLines content)

/-! ## The columns stay in step -/

theorem loadLines_eq_ofRules (lines : List String) (rules : List Rule) :
    ∃ rules', loadLines (.ofRules rules) lines = .ofRules rules' := by
  induction lines generalizing rules with
  | nil => exact ⟨rules, rfl⟩
  | cons line rest ih =>
      rw [loadLines]
      split
      · exact ⟨rules, rfl⟩
      · split
        · next r _ =>
            rw [RuleTable.ofRules_add]
            exact ih (rules ++ [r])
        · exact ih []

theorem loadConfigText_eq_ofRules (data : String) (rules : List Rule) :
    ∃ rules', loadConfigText (.ofRules rules) data = .ofRules rules' := by
  rw [loadConfigText]
  split
  · exact ⟨rules, rfl⟩
  · exact loadLines_eq_ofRules _ []

example : loadConfigText .empty "a,,FF0000\nbroken\nb,x,00FF00,blink,500,700\n\nc,,0000FF" =
    .ofRules [⟨"b", "x", "00FF00", true, "500", "700"⟩] := by decide

end VendorRs.LedLightManager
