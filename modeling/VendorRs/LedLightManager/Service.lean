import VendorRs.LedLightManager.Rules
import VendorRs.LedLightManager.Light

/-!
# The LED manager service

The state of one `LedLightManager` instance, its callbacks, and `step`, which delivers one event to
it. Callbacks run one at a time on the main thread, so a run of the service is a sequence of steps.

Every callback is a function from states to `Java.Outcome`. Where the source reads a list by
index or parses a text, the model may throw, and the state it throws in is the one reached so far.

Two fields are there for the theorems and never read by a callback: `commands` lists the `setColor`
calls that got as far as `ctl.start`, and the column `postedBy` of the tracked table remembers which
notification's post added an entry.
-/

namespace VendorRs.LedLightManager

open Java

/-! ## The world around the service -/

/-- What the system identifies a notification by. -/
structure Key where
  packageName : String
  tag : Option String
  id : Int
  user : Int
  deriving DecidableEq, Repr

/-- A `StatusBarNotification`. Its constructor rejects a missing package or notification, so the
only part that can be absent is the title (`Notification.EXTRA_TITLE`). -/
structure StatusBarNotification extends Key where
  title : Option String
  deriving DecidableEq, Repr

/-- The extras of the sticky `ACTION_BATTERY_CHANGED` broadcast. `EXTRA_SCALE` is the maximum level,
so never zero. -/
structure Battery where
  level : Int
  scale : Int
  plugged : Int
  scale_ne : scale ≠ 0
  deriving DecidableEq, Repr

def isBatteryFull (b : Battery) : Bool := (toInt (b.level * 100)).tdiv b.scale = 100

/-- `BATTERY_PLUGGED_AC`, `_USB` or `_WIRELESS`. -/
def isPowerConnected (b : Battery) : Bool := b.plugged = 1 || b.plugged = 2 || b.plugged = 4

/-- The seven `currentEnabled*` lists, and beside them the ghost column `postedBy`. -/
structure TrackedTable where
  currentEnabledApps : List String
  currentEnabledID : List Int
  currentEnabledStringForApps : List String
  currentEnabledColorsForApps : List String
  currentEnabledBlinkForApps : List Bool
  currentEnabledOnMsForApps : List String
  currentEnabledOffMsForApps : List String
  postedBy : List Key
  deriving DecidableEq, Repr

def TrackedTable.empty : TrackedTable := ⟨[], [], [], [], [], [], [], []⟩

structure State where
  configFileAlreadyLoaded : Bool
  isListenerConnected : Bool
  wasServiceStarted : Bool
  rules : RuleTable
  tracked : TrackedTable
  onMs : Int
  offMs : Int
  /-- Whether `mPowerReceiver` is registered. -/
  mPowerReceiver : Bool
  /-- `persist.sys.disable.rgb`. -/
  disableRgb : String
  lightProps : LightProps
  commands : List Command
  /-- The content of the configuration file, `none` while reading it raises an `IOException`. -/
  configFile : Option String
  /-- The text stored under `ledSettingsBase64`. The Base64 envelope is not modelled: what the
  service decodes is what it encoded. -/
  ledSettings : Option String
  battery : Battery
  deriving DecidableEq, Repr

/-- What a new instance finds: everything of the state that outlives the object. -/
structure Device where
  disableRgb : String
  lightProps : LightProps
  configFile : Option String
  ledSettings : Option String
  battery : Battery

/-- The service after `onCreate`, which only looks at `persist.sys.disable.rgb`. -/
def State.created (d : Device) : State where
  configFileAlreadyLoaded := false
  isListenerConnected := false
  wasServiceStarted := false
  rules := .empty
  tracked := .empty
  onMs := 0
  offMs := 0
  mPowerReceiver := false
  disableRgb := d.disableRgb
  lightProps := d.lightProps
  commands := []
  configFile := d.configFile
  ledSettings := d.ledSettings
  battery := d.battery

/-! ## Commands -/

/-- `setColor`: parse, store the durations, write the properties, start the daemon. The duration
fields are assigned as soon as each is parsed. -/
def setColor (s : State) (c : Command) : Outcome State State := do
  let color ← leaving s (parseColor ("#" ++ c.hexColor))
  let onMs ← leaving s (valueOf c.onMs)
  let s := { s with onMs := onMs }
  let offMs ← leaving s (valueOf c.offMs)
  let s := { s with offMs := offMs }
  -- nothing throws from here on
  return { s with
    lightProps := LedLightManager.lightProps c.blink color s.onMs s.offMs
    commands := s.commands ++ [c] }

def turnOffLed (s : State) : Outcome State State := setColor s .off

/-- Clears the rule table and the tracked table, then turns the LED off. -/
def disableLed (s : State) : Outcome State State :=
  turnOffLed { s with rules := .empty, tracked := .empty }

/-! ## Configuration -/

/-- `getDataFromSharedPref`: until a read of the file succeeds, each call tries it again, and a
successful read replaces the stored text. -/
def getDataFromSharedPref (s : State) : State × Option String :=
  let s :=
    if s.configFileAlreadyLoaded then s
    else match s.configFile with
      | some content =>
          { s with
            ledSettings := some (convertStreamToString content)
            configFileAlreadyLoaded := true }
      | none => { s with configFileAlreadyLoaded := false }
  (s, s.ledSettings)

def loadConfig (s : State) : State :=
  match getDataFromSharedPref s with
  | (s, none) => s
  | (s, some data) => { s with rules := loadConfigText s.rules data }

/-! ## Posting -/

/-- `Utils.indexOfMultiple`: the positions of `object`, in order. -/
def indexOfMultiple {α : Type} [DecidableEq α] (list : List α) (object : α) : List Nat :=
  (List.range list.length).filter fun i => list[i]? = some object

/-- Whether the title contains the string, ignoring case; `false` without a title. -/
def titleContains (locale : DefaultLocale) (title : Option String) (string : String) : Bool :=
  title.any fun title => containsIgnoreCase locale title string

/-- The arguments `setColor` gets for the rule at index `i`. -/
def ruleCommand (s : State) (i : Nat) : Outcome State Command := do
  let color ← leaving s (getAt s.rules.enabledColorsForApps i)
  let blink ← leaving s (getAt s.rules.enabledBlinkForApps i)
  let onMs ← leaving s (getAt s.rules.enabledOnMsForApps i)
  let offMs ← leaving s (getAt s.rules.enabledOffMsForApps i)
  return ⟨color, blink, onMs, offMs⟩

/-- The two `add`s made before a rule is looked for. -/
def addApp (s : State) (n : StatusBarNotification) : State :=
  { s with tracked := { s.tracked with
      currentEnabledApps := s.tracked.currentEnabledApps ++ [n.packageName]
      currentEnabledID := s.tracked.currentEnabledID ++ [n.id]
      postedBy := s.tracked.postedBy ++ [n.toKey] } }

/-- The five `add`s made once a rule is chosen. -/
def addInfos (s : State) (string : String) (c : Command) : State :=
  { s with tracked := { s.tracked with
      currentEnabledStringForApps := s.tracked.currentEnabledStringForApps ++ [string]
      currentEnabledColorsForApps := s.tracked.currentEnabledColorsForApps ++ [c.hexColor]
      currentEnabledBlinkForApps := s.tracked.currentEnabledBlinkForApps ++ [c.blink]
      currentEnabledOnMsForApps := s.tracked.currentEnabledOnMsForApps ++ [c.onMs]
      currentEnabledOffMsForApps := s.tracked.currentEnabledOffMsForApps ++ [c.offMs] } }

/-- The matching loop of `getNotificationAndSetLed`, over the positions still to be tried. It
returns the state, `isFound` and `defaultIndex` (`none` for `-1`) as they are after the loop. -/
def postLoop (locale : DefaultLocale) (title : Option String) (s : State)
    (defaultIndex : Option Nat) : List Nat → Outcome State (State × Bool × Option Nat)
  | [] => return (s, false, defaultIndex)
  | i :: rest => do
      let string ← leaving s (getAt s.rules.enabledStringForApps i)
      let isFound := titleContains locale title string
      if isFound && !string.isEmpty then
        let c ← ruleCommand s i
        let s ← setColor s c
        -- `break`
        return (addInfos s string c, true, defaultIndex)
      else if string.isEmpty then
        postLoop locale title s (some i) rest
      else
        postLoop locale title s defaultIndex rest

/-- What follows the loop: the default rule, if there is one and nothing matched. -/
def postDefault (s : State) (isFound : Bool) (defaultIndex : Option Nat) : Outcome State State :=
  match defaultIndex with
  | some i =>
      if !isFound then do
        let c ← ruleCommand s i
        let s ← setColor s c
        return addInfos s "" c
      else return s
  | none => return s

def getNotificationAndSetLed (locale : DefaultLocale) (s : State) (n : StatusBarNotification) :
    Outcome State State := do
  let s := loadConfig s
  if s.rules.enabledApps.contains n.packageName then
    let s := addApp s n
    let occurencesArray := indexOfMultiple s.rules.enabledApps n.packageName
    let (s, isFound, defaultIndex) ← postLoop locale n.title s none occurencesArray
    postDefault s isFound defaultIndex
  else
    return s

def onNotificationPosted (locale : DefaultLocale) (s : State) :
    Option StatusBarNotification → Outcome State State
  | some n => getNotificationAndSetLed locale s n
  | none => return s

/-! ## Removing -/

/-- The seven `remove`s of one entry, in the order both branches of the loop make them. -/
def removeEntry (s : State) (i : Nat) : Outcome State State := do
  let apps ← leaving s (removeAt s.tracked.currentEnabledApps i)
  let s := { s with tracked := { s.tracked with
    currentEnabledApps := apps, postedBy := s.tracked.postedBy.eraseIdx i } }
  let ids ← leaving s (removeAt s.tracked.currentEnabledID i)
  let s := { s with tracked := { s.tracked with currentEnabledID := ids } }
  let strings ← leaving s (removeAt s.tracked.currentEnabledStringForApps i)
  let s := { s with tracked := { s.tracked with currentEnabledStringForApps := strings } }
  let colors ← leaving s (removeAt s.tracked.currentEnabledColorsForApps i)
  let s := { s with tracked := { s.tracked with currentEnabledColorsForApps := colors } }
  let onMs ← leaving s (removeAt s.tracked.currentEnabledOnMsForApps i)
  let s := { s with tracked := { s.tracked with currentEnabledOnMsForApps := onMs } }
  let offMs ← leaving s (removeAt s.tracked.currentEnabledOffMsForApps i)
  let s := { s with tracked := { s.tracked with currentEnabledOffMsForApps := offMs } }
  let blink ← leaving s (removeAt s.tracked.currentEnabledBlinkForApps i)
  return { s with tracked := { s.tracked with currentEnabledBlinkForApps := blink } }

/-- The loop of `onNotificationRemoved`, over the positions still to be looked at, highest first. -/
def removeLoop (locale : DefaultLocale) (n : StatusBarNotification) (s : State) :
    List Nat → Outcome State State
  | [] => return s
  | i :: rest => do
      let notifTitle ← leaving s (getAt s.tracked.currentEnabledStringForApps i)
      -- unlike in `postLoop`, an empty string is not looked for in the title
      let isFound := !notifTitle.isEmpty && titleContains locale n.title notifTitle
      let id ← leaving s (getAt s.tracked.currentEnabledID i)
      if id = n.id then
        if isFound && !notifTitle.isEmpty then
          let s ← removeEntry s i
          removeLoop locale n s rest
        else if notifTitle.isEmpty && !isFound then
          let s ← removeEntry s i
          removeLoop locale n s rest
        else
          removeLoop locale n s rest
      else
        removeLoop locale n s rest

/-- The command of the last tracked entry, as `onNotificationRemoved` reads it: each list at an
index taken from its own length, but the blink flag at one taken from the colours. -/
def lastTrackedCommand (s : State) : Outcome State Command := do
  let colors := s.tracked.currentEnabledColorsForApps
  let color ← leaving s (getAt colors (colors.length - 1))
  let blink ← leaving s (getAt s.tracked.currentEnabledBlinkForApps (colors.length - 1))
  let onMs := s.tracked.currentEnabledOnMsForApps
  let on ← leaving s (getAt onMs (onMs.length - 1))
  let offMs := s.tracked.currentEnabledOffMsForApps
  let off ← leaving s (getAt offMs (offMs.length - 1))
  return ⟨color, blink, on, off⟩

/-- The charging colour, where the source shows one: green when full, yellow otherwise, nothing
when unplugged. -/
def showCharging (s : State) : Outcome State State :=
  if isBatteryFull s.battery && isPowerConnected s.battery then setColor s .green
  else if isPowerConnected s.battery then setColor s .yellow
  else .ok s

/-- What is done when the package is among the tracked ones. -/
def removeNotification (locale : DefaultLocale) (s : State) (n : StatusBarNotification) :
    Outcome State State := do
  let occurencesArray := indexOfMultiple s.tracked.currentEnabledApps n.packageName
  let s ← removeLoop locale n s occurencesArray.reverse
  -- Set the color of the latest notification available
  if s.tracked.currentEnabledColorsForApps.length > 0 then
    let c ← lastTrackedCommand s
    setColor s c
  else
    disableLed s

def onNotificationRemoved (locale : DefaultLocale) (s : State) (n : StatusBarNotification) :
    Outcome State State := do
  let s ←
    if s.tracked.currentEnabledApps.contains n.packageName then removeNotification locale s n
    else pure s
  -- also after a removal that has just shown another entry, or turned the LED off
  if isPowerConnected s.battery && s.tracked.currentEnabledApps.isEmpty then
    showCharging s
  else
    return s

/-! ## Lifecycle and power -/

/-- `unregisterReceiver(mPowerReceiver)`. -/
def unregisterPowerReceiver (s : State) : Outcome State State :=
  if s.mPowerReceiver then .ok { s with mPowerReceiver := false }
  else .error (.receiverNotRegistered, s)

/-- The charging colour as `onPowerOn` shows it: the same choice as `showCharging`, written with the
tests the other way round. -/
def showChargingOnPowerOn (s : State) : Outcome State State :=
  if !isBatteryFull s.battery && isPowerConnected s.battery then setColor s .yellow
  else if isBatteryFull s.battery && isPowerConnected s.battery then setColor s .green
  else .ok s

def onPowerOn (s : State) : Outcome State State := do
  if !s.wasServiceStarted then
    let s := { s with mPowerReceiver := true }
    let s ← showChargingOnPowerOn s
    -- never set back
    return { s with wasServiceStarted := true }
  else
    return s

def onListenerConnected (s : State) : Outcome State State :=
  let s := { s with isListenerConnected := true }
  let s := loadConfig s
  let s := { s with disableRgb := "1" }
  onPowerOn s

def onClose (s : State) : Outcome State State := do
  let s ← disableLed s
  let s := { s with disableRgb := "", configFileAlreadyLoaded := false }
  unregisterPowerReceiver s

def onListenerDisconnected (s : State) : Outcome State State :=
  onClose { s with isListenerConnected := false }

/-- The actions `mPowerReceiver` is registered for. -/
inductive PowerAction where
  | batteryChanged
  | powerConnected
  | powerDisconnected
  deriving DecidableEq, Repr

/-- `mPowerReceiver.onReceive`. -/
def onPowerReceive (s : State) (action : PowerAction) : Outcome State State :=
  if s.disableRgb ≠ "1" then unregisterPowerReceiver s
  else match action with
    | .batteryChanged | .powerConnected =>
        if s.tracked.currentEnabledApps.isEmpty then showCharging s else .ok s
    | .powerDisconnected =>
        if s.tracked.currentEnabledApps.isEmpty then turnOffLed s else .ok s

/-! ## Events -/

inductive Event where
  | listenerConnected
  | listenerDisconnected
  | notificationPosted (n : Option StatusBarNotification)
  | notificationRemoved (n : StatusBarNotification)
  /-- The battery status becomes `battery`, and `action` is broadcast. -/
  | power (action : PowerAction) (battery : Battery)
  /-- The configuration file changes on storage; no callback runs. -/
  | configFile (content : Option String)
  deriving DecidableEq, Repr

/-- One event. A broadcast reaches the service only while its receiver is registered. -/
def step (locale : DefaultLocale) (s : State) : Event → Outcome State State
  | .listenerConnected => onListenerConnected s
  | .listenerDisconnected => onListenerDisconnected s
  | .notificationPosted n => onNotificationPosted locale s n
  | .notificationRemoved n => onNotificationRemoved locale s n
  | .power action battery =>
      -- the sticky broadcast changes whether or not anybody listens
      let s := { s with battery := battery }
      if s.mPowerReceiver then onPowerReceive s action else .ok s
  | .configFile content => .ok { s with configFile := content }

end VendorRs.LedLightManager
