import VendorRs.Boot.Permissions
import VendorRs.Lib.Runs
import VendorRs.Utils

/-!
# What is set up at boot

`BootCompletedReceiver` puts `MainService` on the list of accessibility services, brings the nodes
of some drivers in line with the preferences, lets the LED manager see the notifications, and grants
permissions. The settings screen writes the same nodes as soon as the user changes a preference.

A run is made of boots and of what the user does between them.
-/

namespace VendorRs.Boot

open Java

/-! ## The device -/

def package_name : String := "org.robertogl.settingsextra"

def accessibilityService : String := ".MainService"

def mainServiceString : String := package_name ++ "/" ++ package_name ++ accessibilityService

def keySwapNode : String := "/proc/s1302/key_rep"

def displayModeSRGBNode : String := "/sys/devices/virtual/graphics/fb0/srgb"

def displayModeDCIP3Node : String := "/sys/devices/virtual/graphics/fb0/dci_p3"

def flickerFreeNode : String := "/proc/flicker_free/flicker_free"

def nodes : List String :=
  [keySwapNode, flickerFreeNode, displayModeSRGBNode, displayModeDCIP3Node]

/-- What the drivers put into their nodes when they are loaded. -/
structure DriverFiles where
  files : Utils.Files
  off : ∀ node ∈ nodes, ∀ x ∈ files node, x = "0"

/-- An accessibility service as it is written on the list. -/
structure ServiceName where
  text : String
  ne_empty : text ≠ ""
  no_colon : ':' ∉ text.toList

/-- The accessibility services that are enabled, a set as the system has it. -/
structure Services where
  list : List ServiceName
  nodup : (list.map ServiceName.text).Nodup

structure State where
  /-- The secure setting `ENABLED_ACCESSIBILITY_SERVICES`. -/
  services : Option String
  /-- The secure setting `ACCESSIBILITY_ENABLED`. -/
  accessibilityEnabled : Option String
  buttonSwap : Option Bool
  flickerFree : Option Bool
  /-- The preference `display_mode`. -/
  displayMode : Option String
  ledManagerExtraEnabled : Option Bool
  /-- Whether the LED manager may see the notifications. -/
  ledAccess : Bool
  files : Utils.Files
  packages : Packages
  /-- For the theorems only: what was installed at the last boot. -/
  atLastBoot : String → Bool

/-- A device before its first boot. -/
structure Device where
  services : Services
  requested : String → Option (List Permission)
  granted : Finset (String × Permission)
  drivers : DriverFiles

/-- What the system writes for them. -/
def Services.joined (chosen : Services) : String :=
  ":".intercalate (chosen.list.map ServiceName.text)

def State.initial (d : Device) : State where
  services := if d.services.list.isEmpty then none else some d.services.joined
  accessibilityEnabled := none
  buttonSwap := none
  flickerFree := none
  displayMode := none
  ledManagerExtraEnabled := none
  ledAccess := false
  files := d.drivers.files
  packages := ⟨d.requested, d.granted, fun _ => none⟩
  atLastBoot := fun _ => false

/-! ## The receiver -/

/-- The first part of `onReceive`: `MainService` is needed, and the user may have disabled it. -/
def enableMainService (currentServices : Option String) : String :=
  match currentServices with
  | some text =>
      if text ≠ "" then
        if contains text mainServiceString then text else text ++ ":" ++ mainServiceString
      else mainServiceString
  | none => mainServiceString

/-- The nodes are off when the device has booted, so only what is on is written. -/
def writeNodes (s : State) : Utils.Files :=
  let areWeSwapping := s.buttonSwap.getD false
  let files := if areWeSwapping then Utils.writeToFile s.files keySwapNode "1" else s.files
  let areWeFlickerFree := s.flickerFree.getD false
  let files := if areWeFlickerFree then Utils.writeToFile files flickerFreeNode "1" else files
  let displayMode := s.displayMode.getD "normal"
  if displayMode = "srgb" then Utils.writeToFile files displayModeSRGBNode "1"
  else if displayMode = "dcip3" then Utils.writeToFile files displayModeDCIP3Node "1"
  else files

/-- `BootCompletedReceiver.onReceive`. -/
def onReceive (s : State) : State :=
  let s := { s with
    services := some (enableMainService s.services)
    accessibilityEnabled := some "1" }
  let s := { s with files := writeNodes s }
  let isLedManagerEnabled := s.ledManagerExtraEnabled.getD false
  let s := if isLedManagerEnabled then { s with ledAccess := true } else s
  { s with packages := onStartup s.packages, atLastBoot := isPackageInstalled s.packages }

/-! ## The settings screen -/

/-- `onPreferenceChange` of `buttonSwap`. -/
def buttonSwapChanged (files : Utils.Files) (newValue : Bool) : Utils.Files :=
  if newValue then Utils.writeToFile files keySwapNode "1"
  else Utils.writeToFile files keySwapNode "0"

/-- `onPreferenceChange` of `flickerFree`. -/
def flickerFreeChanged (files : Utils.Files) (newValue : Bool) : Utils.Files :=
  if newValue then Utils.writeToFile files flickerFreeNode "1"
  else Utils.writeToFile files flickerFreeNode "0"

/-- `onPreferenceChange` of `display_mode`. -/
def displayModeChanged (files : Utils.Files) (value : String) : Utils.Files :=
  if value = "srgb" then Utils.writeToFile files displayModeSRGBNode "1"
  else if value = "dcip3" then Utils.writeToFile files displayModeDCIP3Node "1"
  else
    Utils.writeToFile (Utils.writeToFile files displayModeSRGBNode "0") displayModeDCIP3Node "0"

/-! ## Events -/

inductive Event where
  /-- The drivers are loaded, and `BootCompletedReceiver` is told. -/
  | booted (drivers : DriverFiles)
  /-- The user chooses the accessibility services; the system writes the list. -/
  | servicesChosen (chosen : Services)
  | buttonSwapChanged (newValue : Bool)
  | flickerFreeChanged (newValue : Bool)
  | displayModeChanged (newValue : String)
  /-- `MainService` passes a change on if it is connected. -/
  | ledManagerExtraEnabledChanged (newValue connected : Bool)
  /-- The user decides in the settings of the system. -/
  | ledAccessChanged (access : Bool)
  /-- A package is installed, or updated. -/
  | installed (packageName : String) (permissions : List Permission)
  /-- What was granted to it goes with the package. -/
  | uninstalled (packageName : String)
  | userGrants (packageName : String) (m : Permission)
  | userRevokes (packageName : String) (m : Permission)

def step (s : State) : Event → Outcome State State
  | .booted drivers => .ok (onReceive { s with files := drivers.files })
  | .servicesChosen chosen => .ok { s with services := some chosen.joined }
  | .buttonSwapChanged newValue =>
      .ok { s with files := buttonSwapChanged s.files newValue, buttonSwap := some newValue }
  | .flickerFreeChanged newValue =>
      .ok { s with files := flickerFreeChanged s.files newValue, flickerFree := some newValue }
  | .displayModeChanged newValue =>
      .ok { s with files := displayModeChanged s.files newValue, displayMode := some newValue }
  | .ledManagerExtraEnabledChanged newValue connected =>
      .ok { s with
        ledManagerExtraEnabled := some newValue
        ledAccess := if connected then newValue else s.ledAccess }
  | .ledAccessChanged access => .ok { s with ledAccess := access }
  | .installed packageName permissions =>
      .ok { s with packages := { s.packages with
        requested := Function.update s.packages.requested packageName (some permissions) } }
  | .uninstalled packageName =>
      .ok { s with packages := { s.packages with
        requested := Function.update s.packages.requested packageName none
        granted := s.packages.granted.filter (·.1 ≠ packageName) } }
  | .userGrants packageName m =>
      .ok { s with packages := { s.packages with
        granted := insert (packageName, m) s.packages.granted } }
  | .userRevokes packageName m =>
      .ok { s with packages := { s.packages with
        granted := s.packages.granted.erase (packageName, m) } }

/-- The parts of a boot do not depend on one another. -/
theorem onReceive_eq (s : State) :
    onReceive s = { s with
      services := some (enableMainService s.services)
      accessibilityEnabled := some "1"
      files := writeNodes s
      ledAccess := s.ledManagerExtraEnabled.getD false || s.ledAccess
      packages := onStartup s.packages
      atLastBoot := isPackageInstalled s.packages } := by
  unfold onReceive
  dsimp only
  cases s.ledManagerExtraEnabled.getD false with
  | false => rfl
  | true => rfl

end VendorRs.Boot
