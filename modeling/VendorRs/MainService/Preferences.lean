import VendorRs.Backlight.Basic
import VendorRs.CallManager.Basic
import VendorRs.ConnectivityManager.Modem
import VendorRs.GamingMode.Basic
import VendorRs.Ims.Switch

/-!
# The preferences of the settings service

`MainService` reads its preferences at two places: all of them in `onServiceConnected`, and each one
again in `mPreferenceListener` when it changes. This file puts together what the two make of them,
from the parts of the service that have their own files. Each preference is kept with the part that
reads it; `State.prefs` is the store that they make up.

What `onServiceConnected` sets up regardless of the preferences (receivers, tiles, the volume that
goes with the slider) is left out, and so is what pocket mode and the LED manager do with theirs:
none of it is read by the rest. What the navigation bar does comes last in `onServiceConnected` and
has a file of its own.
-/

namespace VendorRs.MainService

open Java

/-! ## The store -/

/-- The preferences read by `getBoolean`. -/
inductive BooleanKey where
  | areWeAllowedToRecordCall
  | areWeAllowedToVibrateDuringCalls
  | dynamicModem
  | showVolteIcon
  | showVowifiIcon
  | pocketModeEnabled
  | headsUpNotificationsEnabled
  | ledManagerExtraEnabled
  | buttonsBacklightEnabledForced
  | buttonsBacklightEnabled
  | navBarEnabled
  deriving DecidableEq, Repr

/-- What `getBoolean` is told to return if the preference is not set. -/
def BooleanKey.defValue : BooleanKey → Bool
  | .headsUpNotificationsEnabled => true
  | _ => false

/-- The preferences read by `getString`, the text of which is taken for a number. -/
inductive NumberKey where
  | preferredNetworkModeKeyWifi
  | preferredNetworkModeKey
  | vibrationIntensityString
  | capacitiveButtonsBacklightTimeout
  deriving DecidableEq, Repr

def NumberKey.defValue : NumberKey → String
  | .preferredNetworkModeKeyWifi => "0"
  | .preferredNetworkModeKey => "0"
  | .vibrationIntensityString => "58"
  | .capacitiveButtonsBacklightTimeout => "1500"

/-- The preferences that are set, with their values. -/
structure Preferences where
  boolean : BooleanKey → Option Bool
  number : NumberKey → Option String
  callRecordingDirectory : Option String

def Preferences.getBoolean (p : Preferences) (key : BooleanKey) : Bool :=
  (p.boolean key).getD key.defValue

def Preferences.getString (p : Preferences) (key : NumberKey) : String :=
  (p.number key).getD key.defValue

/-- Every text that is taken for a number is one. -/
def Preferences.Numeric (p : Preferences) : Prop :=
  ∀ key, ∃ n, valueOf (p.getString key) = .ok n

/-! ## The service -/

structure State where
  backlight : Backlight.State
  calls : CallManager.State
  ims : Ims.Switch
  gaming : GamingMode.State
  modem : ConnectivityManager.Modem
  modes : ConnectivityManager.NetworkModes
  dynamicModem : Option Bool
  pocketModeEnabled : Option Bool
  ledManagerExtraEnabled : Option Bool
  navBarEnabled : Option Bool
  vibrationIntensityString : Option String

def State.prefs (s : State) : Preferences where
  boolean
    | .areWeAllowedToRecordCall => s.calls.recordCallPref
    | .areWeAllowedToVibrateDuringCalls => s.calls.vibrateDuringCallsPref
    | .dynamicModem => s.dynamicModem
    | .showVolteIcon => s.ims.showVolteIcon
    | .showVowifiIcon => s.ims.showVowifiIcon
    | .pocketModeEnabled => s.pocketModeEnabled
    | .headsUpNotificationsEnabled => s.gaming.headsUpNotificationsEnabled
    | .ledManagerExtraEnabled => s.ledManagerExtraEnabled
    | .buttonsBacklightEnabledForced => s.backlight.forcedPref
    | .buttonsBacklightEnabled => s.backlight.enabledPref
    | .navBarEnabled => s.navBarEnabled
  number
    | .preferredNetworkModeKeyWifi => s.modes.preferredNetworkModeWifi
    | .preferredNetworkModeKey => s.modes.preferredNetworkMode
    | .vibrationIntensityString => s.vibrationIntensityString
    | .capacitiveButtonsBacklightTimeout => s.backlight.timeoutPref
  callRecordingDirectory := s.calls.callRecordingDirectory

/-- A device the service is started on. -/
structure Device where
  /-- What is read from the state node of the slider. -/
  triState : String
  phone : ConnectivityManager.Phone
  screenOn : Bool
  /-- The property `sys.button_backlight.on`, as it was left. -/
  backlightOn : String
  gaming : GamingMode.Device

/-- A new `MainService`, with the preferences it finds. -/
def State.created (p : Preferences) (d : Device) : State where
  backlight := .created (p.boolean .buttonsBacklightEnabledForced)
    (p.boolean .buttonsBacklightEnabled) (p.number .capacitiveButtonsBacklightTimeout) d.screenOn
    d.backlightOn
  calls := .created (p.boolean .areWeAllowedToRecordCall)
    (p.boolean .areWeAllowedToVibrateDuringCalls) p.callRecordingDirectory
  ims :=
    { Ims.Switch.connected none none with
      showVolteIcon := p.boolean .showVolteIcon
      showVowifiIcon := p.boolean .showVowifiIcon }
  gaming := .initial
    { d.gaming with headsUpNotificationsEnabled := p.boolean .headsUpNotificationsEnabled }
  modem := .created
  modes := ⟨p.number .preferredNetworkModeKey, p.number .preferredNetworkModeKeyWifi⟩
  dynamicModem := p.boolean .dynamicModem
  pocketModeEnabled := p.boolean .pocketModeEnabled
  ledManagerExtraEnabled := p.boolean .ledManagerExtraEnabled
  navBarEnabled := p.boolean .navBarEnabled
  vibrationIntensityString := p.number .vibrationIntensityString

theorem prefs_created (p : Preferences) (d : Device) : (State.created p d).prefs = p := by
  cases p
  unfold State.prefs
  congr 1
  · funext key
    cases key <;> rfl
  · funext key
    cases key <;> rfl

/-! ## A change of a preference -/

/-- A preference gets a value, or is removed. -/
inductive Change where
  | boolean (key : BooleanKey) (value : Option Bool)
  | number (key : NumberKey) (value : Option String)
  | callRecordingDirectory (value : Option String)
  deriving DecidableEq, Repr

/-- The change is stored. -/
def State.store (s : State) : Change → State
  | .boolean .areWeAllowedToRecordCall value =>
      { s with calls := { s.calls with recordCallPref := value } }
  | .boolean .areWeAllowedToVibrateDuringCalls value =>
      { s with calls := { s.calls with vibrateDuringCallsPref := value } }
  | .boolean .dynamicModem value => { s with dynamicModem := value }
  | .boolean .showVolteIcon value => { s with ims := { s.ims with showVolteIcon := value } }
  | .boolean .showVowifiIcon value => { s with ims := { s.ims with showVowifiIcon := value } }
  | .boolean .pocketModeEnabled value => { s with pocketModeEnabled := value }
  | .boolean .headsUpNotificationsEnabled value =>
      { s with gaming := { s.gaming with headsUpNotificationsEnabled := value } }
  | .boolean .ledManagerExtraEnabled value => { s with ledManagerExtraEnabled := value }
  | .boolean .buttonsBacklightEnabledForced value =>
      { s with backlight := { s.backlight with forcedPref := value } }
  | .boolean .buttonsBacklightEnabled value =>
      { s with backlight := { s.backlight with enabledPref := value } }
  | .boolean .navBarEnabled value => { s with navBarEnabled := value }
  | .number .preferredNetworkModeKeyWifi value =>
      { s with modes := { s.modes with preferredNetworkModeWifi := value } }
  | .number .preferredNetworkModeKey value =>
      { s with modes := { s.modes with preferredNetworkMode := value } }
  | .number .vibrationIntensityString value => { s with vibrationIntensityString := value }
  | .number .capacitiveButtonsBacklightTimeout value =>
      { s with backlight := { s.backlight with timeoutPref := value } }
  | .callRecordingDirectory value =>
      { s with calls := { s.calls with callRecordingDirectory := value } }

/-- The store after a change. -/
def Preferences.set (p : Preferences) : Change → Preferences
  | .boolean key value => { p with boolean := Function.update p.boolean key value }
  | .number key value => { p with number := Function.update p.number key value }
  | .callRecordingDirectory value => { p with callRecordingDirectory := value }

/-- A change is stored under its key, and the rest of the store stays as it is. -/
theorem prefs_store (s : State) (c : Change) : (s.store c).prefs = s.prefs.set c := by
  cases c with
  | boolean key value =>
      unfold State.prefs Preferences.set
      congr 1
      · funext key'
        cases key <;> cases key' <;> rfl
      · cases key <;> rfl
      · cases key <;> rfl
  | number key value =>
      unfold State.prefs Preferences.set
      congr 1
      · cases key <;> rfl
      · funext key'
        cases key <;> cases key' <;> rfl
      · cases key <;> rfl
  | callRecordingDirectory value => rfl

section Service

variable (getRafFromNetworkType : Int → Int)

/-- The cases `preferred_network_mode_key_wifi` and `preferred_network_mode_key` of the listener. -/
def onNetworkModeChanged (s : State) (phone : ConnectivityManager.Phone) : Outcome State State :=
  if s.dynamicModem.getD false then
    (s.modem.forceNetworkSettingsUpdate getRafFromNetworkType phone s.modes).mapState
      fun modem => { s with modem := modem }
  else .ok s

/-- `mPreferenceListener`, told of a change that has been stored. -/
def onSharedPreferenceChanged (s : State) (phone : ConnectivityManager.Phone)
    (subscriptionList : Option (List Int)) : Change → Outcome State State
  | .boolean .areWeAllowedToRecordCall _ =>
      (CallManager.onRecordCallChanged s.calls).mapState fun calls => { s with calls := calls }
  | .boolean .areWeAllowedToVibrateDuringCalls _ =>
      (CallManager.onVibrateDuringCallsChanged s.calls).mapState
        fun calls => { s with calls := calls }
  | .boolean .dynamicModem _ =>
      if s.dynamicModem.getD false then
        (s.modem.onStartup getRafFromNetworkType phone s.modes).mapState
          fun modem => { s with modem := modem }
      else
        (s.modem.onClose getRafFromNetworkType phone s.modes).mapState
          fun modem => { s with modem := modem }
  | .number .preferredNetworkModeKeyWifi _ => onNetworkModeChanged getRafFromNetworkType s phone
  | .number .preferredNetworkModeKey _ => onNetworkModeChanged getRafFromNetworkType s phone
  | .boolean .showVolteIcon _ =>
      (Ims.onPreferenceChanged s.ims subscriptionList).mapState fun ims => { s with ims := ims }
  | .boolean .showVowifiIcon _ =>
      (Ims.onPreferenceChanged s.ims subscriptionList).mapState fun ims => { s with ims := ims }
  | .boolean .headsUpNotificationsEnabled _ =>
      .ok { s with gaming := GamingMode.updateHeadsUp s.gaming }
  | .boolean .buttonsBacklightEnabledForced _ =>
      .ok { s with backlight := Backlight.readForced s.backlight }
  | .number .capacitiveButtonsBacklightTimeout _ =>
      (Backlight.readTimeout s.backlight).mapState fun backlight => { s with backlight := backlight }
  | .boolean .buttonsBacklightEnabled _ =>
      .ok { s with backlight := Backlight.readEnabled s.backlight }
  -- what these three do stays outside
  | .boolean .pocketModeEnabled _ => .ok s
  | .boolean .ledManagerExtraEnabled _ => .ok s
  | .boolean .navBarEnabled _ => .ok s
  -- there is no case for these
  | .number .vibrationIntensityString _ => .ok s
  | .callRecordingDirectory _ => .ok s

/-- A change, and what telephony says while it is handled. -/
structure Event where
  change : Change
  phone : ConnectivityManager.Phone
  /-- What `getActiveSubscriptionInfoList` returns. -/
  subscriptionList : Option (List Int)
  deriving DecidableEq

def step (s : State) (e : Event) : Outcome State State :=
  onSharedPreferenceChanged getRafFromNetworkType (s.store e.change) e.phone e.subscriptionList
    e.change

/-- The part of `onServiceConnected` about the dynamic modem. -/
def startDynamicModem (s : State) (phone : ConnectivityManager.Phone) : Outcome State State :=
  if s.dynamicModem.getD false then
    (s.modem.onStartup getRafFromNetworkType phone s.modes).mapState
      fun modem => { s with modem := modem }
  else .ok s

/-- `onServiceConnected`. -/
def onServiceConnected (s : State) (d : Device) : Outcome State State := do
  let _ ← leaving s (valueOf d.triState)
  let s ← startDynamicModem getRafFromNetworkType s d.phone
  let s := { s with calls := CallManager.onServiceConnected s.calls }
  let s := { s with ims := .connected s.ims.showVolteIcon s.ims.showVowifiIcon }
  let s := { s with gaming := GamingMode.updateHeadsUp s.gaming }
  -- the text is read once more, to be written to the vibrator
  let _ ← leaving s (valueOf (s.vibrationIntensityString.getD "58"))
  (Backlight.onServiceConnected s.backlight).mapState
    fun backlight => { s with backlight := backlight }

/-- Of gaming mode, connecting touches the heads-up setting only, whether it returns or throws. -/
theorem left_onServiceConnected_gaming (s : State) (d : Device) :
    ∃ headsUp, (onServiceConnected getRafFromNetworkType s d).left.gaming =
      { s.gaming with headsUpSetting := headsUp } := by
  unfold onServiceConnected
  cases valueOf d.triState with
  | error x => exact ⟨_, rfl⟩
  | ok triState =>
      have hmodem : (startDynamicModem getRafFromNetworkType s d.phone).left.gaming = s.gaming := by
        unfold startDynamicModem
        split
        · rw [Outcome.left_mapState]
        · rfl
      rw [leaving_ok, ok_bind]
      cases hstart : startDynamicModem getRafFromNetworkType s d.phone with
      | error e =>
          rw [hstart] at hmodem
          exact ⟨_, hmodem⟩
      | ok s₁ =>
          rw [hstart] at hmodem
          change s₁.gaming = s.gaming at hmodem
          rw [ok_bind, ← hmodem]
          dsimp only
          cases valueOf (s₁.vibrationIntensityString.getD "58") with
          | error x => exact ⟨_, GamingMode.updateHeadsUp_eq s₁.gaming⟩
          | ok intensity =>
              rw [leaving_ok, ok_bind, Outcome.left_mapState]
              exact ⟨_, GamingMode.updateHeadsUp_eq s₁.gaming⟩

end Service

/-! ## What the preferences come to -/

/-- What the service has made of its preferences. -/
structure Configuration where
  buttonsBacklightControl : Bool
  buttonsBacklightControlForced : Bool
  capacitiveButtonsTimeoutInt : Int
  /-- The property `sys.button_backlight.on`. -/
  backlightOn : String
  mSubMgrRunning : Bool
  /-- The global setting `HEADS_UP_NOTIFICATIONS_ENABLED`. -/
  headsUpSetting : Option String
  areWeAllowedToRecordACall : Bool
  areWeAllowedToVibrateDuringCalls : Bool
  isServiceRunning : Bool
  /-- Whether the two receivers of the call manager are registered. -/
  callRecorderReceiver : Bool
  outGoingNumDetector : Bool
  /-- Whether the network callback of the dynamic modem is. -/
  mNetworkCallback : Bool
  deriving DecidableEq, Repr

def State.configuration (s : State) : Configuration where
  buttonsBacklightControl := s.backlight.buttonsBacklightControl
  buttonsBacklightControlForced := s.backlight.buttonsBacklightControlForced
  capacitiveButtonsTimeoutInt := s.backlight.capacitiveButtonsTimeoutInt
  backlightOn := s.backlight.backlightOn
  mSubMgrRunning := s.ims.mSubMgrRunning
  headsUpSetting := s.gaming.headsUpSetting
  areWeAllowedToRecordACall := s.calls.areWeAllowedToRecordACall
  areWeAllowedToVibrateDuringCalls := s.calls.areWeAllowedToVibrateDuringCalls
  isServiceRunning := s.calls.isServiceRunning
  callRecorderReceiver := s.calls.callRecorderReceiver
  outGoingNumDetector := s.calls.outGoingNumDetector
  mNetworkCallback := s.modem.registered

end VendorRs.MainService
