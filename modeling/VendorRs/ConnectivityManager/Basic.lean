import VendorRs.ConnectivityManager.Modem

/-!
# The dynamic modem

`ConnectivityManagerExtra` asks the modem for one network mode while Wi-Fi is connected and for
another while it is not. Whether it is connected comes from three places: the network a callback is
about, `WifiManager`, and the flag `isWifiConnected` that is kept in between.

The network mode is chosen from a list, so a preference is either one of the listed values or not
set.

A change of a preference is handled before anything else happens, since the settings are changed on
the thread the listener runs on. The callbacks are taken one at a time.
-/

namespace VendorRs.ConnectivityManager

open Java

/-- `preferred_network_mode_values`. -/
def preferredNetworkModeValues : List String :=
  ["0", "1", "2", "3", "4", "5", "6", "7", "8", "9", "10", "11", "12", "13", "14", "15", "16",
    "17", "18", "19", "20", "21", "22", "23", "24", "25", "26", "27", "28", "29", "30", "31", "32",
    "33"]

/-- What the two list preferences can be set to. -/
structure NetworkModeValue where
  text : String
  listed : text ∈ preferredNetworkModeValues
  deriving DecidableEq

/-- The transports of a network that the callbacks look at. -/
structure NetworkCapabilities where
  wifi : Bool
  cellular : Bool
  deriving DecidableEq, Repr

structure State extends Modem where
  /-- The preferences, where they are set. -/
  dynamicModem : Option Bool
  preferredNetworkMode : Option NetworkModeValue
  preferredNetworkModeWifi : Option NetworkModeValue
  /-- The Wi-Fi network as it was when the last event was handled. -/
  networkId : Int
  deriving DecidableEq

/-- Before the service is connected. -/
def State.installed (dynamicModem : Option Bool)
    (preferredNetworkMode preferredNetworkModeWifi : Option NetworkModeValue) : State :=
  ⟨.created, dynamicModem, preferredNetworkMode, preferredNetworkModeWifi, -1⟩

/-- The two network modes, as the texts that are stored. -/
def State.modes (s : State) : NetworkModes :=
  ⟨s.preferredNetworkMode.map NetworkModeValue.text,
    s.preferredNetworkModeWifi.map NetworkModeValue.text⟩

/-- What is done to the modem. -/
def State.withModem (s : State) (modem : Outcome Modem Modem) : Outcome State State :=
  modem.mapState fun modem => { s with toModem := modem }

section Modem

variable (getRafFromNetworkType : Int → Int)

def forceMode (s : State) (phone : Phone) (value : Option NetworkModeValue) :
    Outcome State State :=
  s.withModem (s.toModem.forceMode getRafFromNetworkType phone (value.map NetworkModeValue.text))

def forceDefaultNetworkMode (s : State) (phone : Phone) : Outcome State State :=
  forceMode getRafFromNetworkType s phone s.preferredNetworkMode

def forceNetworkMode (s : State) (phone : Phone) : Outcome State State :=
  forceMode getRafFromNetworkType s phone s.preferredNetworkModeWifi

def forceNetworkSettingsUpdate (s : State) (phone : Phone) : Outcome State State :=
  s.withModem (s.toModem.forceNetworkSettingsUpdate getRafFromNetworkType phone s.modes)

def onStartup (s : State) (phone : Phone) : Outcome State State :=
  s.withModem (s.toModem.onStartup getRafFromNetworkType phone s.modes)

def onClose (s : State) (phone : Phone) : Outcome State State :=
  s.withModem (s.toModem.onClose getRafFromNetworkType phone s.modes)

/-- A network is available, with the capabilities `getNetworkCapabilities` returns. -/
def onAvailable (s : State) (phone : Phone) :
    Option NetworkCapabilities → Outcome State State
  | none => .error (.nullPointer, s)
  | some networkCapabilities =>
      if networkCapabilities.wifi then do
        let s ← forceNetworkMode getRafFromNetworkType s phone
        .ok { s with isWifiConnected := true }
      else if networkCapabilities.cellular then do
        let s ← forceDefaultNetworkMode getRafFromNetworkType s phone
        .ok { s with isWifiConnected := false }
      else .ok s

/-- Back to the default mode, with `isWifiConnected` cleared. -/
def wifiLost (s : State) (phone : Phone) : Outcome State State := do
  let s ← forceDefaultNetworkMode getRafFromNetworkType s phone
  .ok { s with isWifiConnected := false }

/-- A network is lost. -/
def onLost (s : State) (phone : Phone) (networkCapabilities : Option NetworkCapabilities) :
    Outcome State State :=
  if phone.networkId = -1 ∧ s.isWifiConnected = true then wifiLost getRafFromNetworkType s phone
  else
    match networkCapabilities with
    | none => .ok s
    | some networkCapabilities =>
        if networkCapabilities.wifi = false ∧ s.isWifiConnected = true then
          wifiLost getRafFromNetworkType s phone
        else .ok s

/-! ## The service -/

/-- The service is connected. -/
def onServiceConnected (s : State) (phone : Phone) : Outcome State State :=
  let s := { s with networkId := phone.networkId }
  if s.dynamicModem.getD false then onStartup getRafFromNetworkType s phone else .ok s

/-- The listener of the preference `dynamicModem`. -/
def onDynamicModemChanged (s : State) (phone : Phone) : Outcome State State :=
  if s.dynamicModem.getD false then onStartup getRafFromNetworkType s phone
  else onClose getRafFromNetworkType s phone

/-- The listener of the two network modes. -/
def onNetworkModeChanged (s : State) (phone : Phone) : Outcome State State :=
  if s.dynamicModem.getD false then forceNetworkSettingsUpdate getRafFromNetworkType s phone
  else .ok s

inductive Callback where
  | available (networkCapabilities : Option NetworkCapabilities)
  | lost (networkCapabilities : Option NetworkCapabilities)
  | setDynamicModem (value : Bool)
  | setNetworkMode (value : NetworkModeValue)
  | setNetworkModeWifi (value : NetworkModeValue)
  deriving DecidableEq

structure Event where
  phone : Phone
  callback : Callback
  deriving DecidableEq

/-- A callback that is not registered is not called, and the listener is told of a preference only
if its value changes. -/
def handle (s : State) (phone : Phone) : Callback → Outcome State State
  | .available networkCapabilities =>
      if s.registered then onAvailable getRafFromNetworkType s phone networkCapabilities else .ok s
  | .lost networkCapabilities =>
      if s.registered then onLost getRafFromNetworkType s phone networkCapabilities else .ok s
  | .setDynamicModem value =>
      if s.dynamicModem = some value then .ok s
      else onDynamicModemChanged getRafFromNetworkType { s with dynamicModem := some value } phone
  | .setNetworkMode value =>
      if s.preferredNetworkMode = some value then .ok s
      else
        onNetworkModeChanged getRafFromNetworkType { s with preferredNetworkMode := some value }
          phone
  | .setNetworkModeWifi value =>
      if s.preferredNetworkModeWifi = some value then .ok s
      else
        onNetworkModeChanged getRafFromNetworkType { s with preferredNetworkModeWifi := some value }
          phone

def step (s : State) (e : Event) : Outcome State State :=
  handle getRafFromNetworkType { s with networkId := e.phone.networkId } e.phone e.callback

end Modem

/-- Every value that can be chosen is a number, and so is the one taken if none is. -/
theorem valueOf_networkMode (value : Option NetworkModeValue) :
    ∃ mode, valueOf ((value.map NetworkModeValue.text).getD "0") = .ok mode := by
  have hlisted : ∀ text ∈ preferredNetworkModeValues, ∃ mode ∈ List.range 34,
      valueOf text = .ok (mode : Int) := by
    decide +kernel
  cases value with
  | none =>
      obtain ⟨mode, -, hmode⟩ := hlisted "0" (by decide)
      exact ⟨mode, hmode⟩
  | some value =>
      obtain ⟨mode, -, hmode⟩ := hlisted value.text value.listed
      exact ⟨mode, hmode⟩

end VendorRs.ConnectivityManager
