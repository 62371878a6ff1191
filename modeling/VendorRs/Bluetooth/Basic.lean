import VendorRs.Utils

/-!
# The Bluetooth icon

`BluetoothBatteryIcon` replaces the system's Bluetooth icon by one of its own, which also shows the
battery of a connected device. It counts the devices that connect and disconnect, keeps a list of
the addresses that have reported a battery level, and a flag `isBluetoothOff` that says whether
reports are to be shown. None of the three knows of the others.
-/

namespace VendorRs.Bluetooth

open Java Utils

/-! ## The status bar -/

/-- The drawables of the icon. `null` is the id 0, which is no drawable. -/
inductive IconId where
  | null
  | connected
  | battery (n : Fin 10)
  deriving DecidableEq, Repr

/-- The slot `bluetooth_extra` of the status bar. -/
structure Slot where
  icon : Option IconId
  visible : Bool
  deriving DecidableEq, Repr

/-- What is to be seen in the slot. -/
def Slot.shown (slot : Slot) : Option IconId := if slot.visible then slot.icon else none

structure State where
  isBluetoothOff : Bool
  mBluetoothBatteryConnectedAddress : List String
  bluetoothDeviceConnected : Int
  slot : Slot
  /-- The secure setting `icon_blacklist`. -/
  iconBlacklist : Option String
  deriving DecidableEq

/-- A new `BluetoothBatteryIcon`. -/
def State.start (iconBlacklist : Option String) : State where
  isBluetoothOff := true
  mBluetoothBatteryConnectedAddress := []
  bluetoothDeviceConnected := 0
  slot := ⟨none, false⟩
  iconBlacklist := iconBlacklist

/-! ## The icon -/

def batteryLevelUnknown : Int := -1

def batteryLevelBluetoothOff : Int := -100

/-- The choice of the icon in `updateBatteryLevel`. -/
def iconId (batteryLevel : Int) : IconId :=
  if batteryLevel = batteryLevelUnknown ∨ batteryLevel = batteryLevelBluetoothOff then .connected
  else if batteryLevel = 100 then .battery 9
  else if 90 ≤ batteryLevel then .battery 8
  else if 80 ≤ batteryLevel then .battery 7
  else if 70 ≤ batteryLevel then .battery 6
  else if 60 ≤ batteryLevel then .battery 5
  else if 50 ≤ batteryLevel then .battery 4
  else if 40 ≤ batteryLevel then .battery 3
  else if 30 ≤ batteryLevel then .battery 2
  else if 20 ≤ batteryLevel then .battery 1
  else if 10 ≤ batteryLevel then .battery 0
  else .null

/-- `updateBatteryLevel`. -/
def updateBatteryLevel (s : State) (batteryLevel : Int) : State :=
  { s with
    iconBlacklist := removeUnwantendStatusBarIcon s.iconBlacklist "bluetooth"
    slot := ⟨some (iconId batteryLevel), true⟩ }

/-- The icon goes away. -/
def removeIcon (s : State) : State := { s with slot := ⟨none, false⟩ }

/-! ## The receiver -/

/-- `STATE_ON`, `STATE_OFF` and `STATE_DISCONNECTED` of the adapter. -/
def stateOn : Int := 12
def stateOff : Int := 10
def stateDisconnected : Int := 0

/-- Nothing is connected any more. -/
def allDisconnected (s : State) : State :=
  { removeIcon s with
    mBluetoothBatteryConnectedAddress := []
    isBluetoothOff := true
    bluetoothDeviceConnected := 0 }

/-- `ACTION_STATE_CHANGED`. -/
def onStateChanged (s : State) (state : Int) : State :=
  if state = stateOn then
    { s with
      iconBlacklist := removeUnwantendStatusBarIcon
        (removeUnwantendStatusBarIcon s.iconBlacklist "rotate") "bluetooth" }
  else if state = stateOff ∨ state = stateDisconnected then allDisconnected s
  else s

/-- `ACTION_ACL_DISCONNECTED`. -/
def onAclDisconnected (s : State) (address : String) : State :=
  let s := { s with
    mBluetoothBatteryConnectedAddress := s.mBluetoothBatteryConnectedAddress.erase address
    bluetoothDeviceConnected := toInt (s.bluetoothDeviceConnected - 1) }
  if s.bluetoothDeviceConnected ≤ 0 then allDisconnected s
  else if s.mBluetoothBatteryConnectedAddress ≠ [] then { s with isBluetoothOff := false }
  -- devices without a battery are still connected; the flag is set all the same
  else { updateBatteryLevel s batteryLevelUnknown with isBluetoothOff := true }

/-- `ACTION_ACL_CONNECTED`. -/
def onAclConnected (s : State) : State :=
  let s := if s.mBluetoothBatteryConnectedAddress = [] then
    updateBatteryLevel s batteryLevelUnknown else s
  { s with
    bluetoothDeviceConnected := toInt (s.bluetoothDeviceConnected + 1)
    isBluetoothOff := false }

/-- `ACTION_BATTERY_LEVEL_CHANGED`. -/
def onBatteryLevelChanged (s : State) (address : String) (batteryLevel : Int) : State :=
  let s := if s.isBluetoothOff then s else updateBatteryLevel s batteryLevel
  if 0 ≤ batteryLevel then
    { s with
      mBluetoothBatteryConnectedAddress :=
        if address ∈ s.mBluetoothBatteryConnectedAddress then s.mBluetoothBatteryConnectedAddress
        else s.mBluetoothBatteryConnectedAddress ++ [address] }
  else s

section

variable {s : State} {address : String} {batteryLevel : Int}

@[simp] theorem onAclConnected_count : (onAclConnected s).bluetoothDeviceConnected =
    toInt (s.bluetoothDeviceConnected + 1) := by
  unfold onAclConnected
  split <;> rfl

@[simp] theorem onAclConnected_slot : (onAclConnected s).slot =
    if s.mBluetoothBatteryConnectedAddress = [] then ⟨some .connected, true⟩ else s.slot := by
  unfold onAclConnected
  split <;> rfl

@[simp] theorem onBatteryLevelChanged_count :
    (onBatteryLevelChanged s address batteryLevel).bluetoothDeviceConnected =
      s.bluetoothDeviceConnected := by
  unfold onBatteryLevelChanged
  split <;> split <;> rfl

@[simp] theorem onBatteryLevelChanged_slot :
    (onBatteryLevelChanged s address batteryLevel).slot =
      if s.isBluetoothOff then s.slot else ⟨some (iconId batteryLevel), true⟩ := by
  unfold onBatteryLevelChanged
  split <;> split <;> rfl

@[simp] theorem onBatteryLevelChanged_isBluetoothOff :
    (onBatteryLevelChanged s address batteryLevel).isBluetoothOff = s.isBluetoothOff := by
  unfold onBatteryLevelChanged
  split <;> split <;> rfl

end

inductive Event where
  | stateChanged (state : Int)
  | aclConnected (address : String)
  | aclDisconnected (address : String)
  | batteryLevelChanged (address : String) (batteryLevel : Int)
  deriving DecidableEq, Repr

/-- `mBluetoothReceiver`. -/
def onReceive (s : State) : Event → State
  | .stateChanged state => onStateChanged s state
  | .aclConnected _ => onAclConnected s
  | .aclDisconnected address => onAclDisconnected s address
  | .batteryLevelChanged address batteryLevel => onBatteryLevelChanged s address batteryLevel

def step (s : State) (e : Event) : Outcome State State := .ok (onReceive s e)

end VendorRs.Bluetooth
