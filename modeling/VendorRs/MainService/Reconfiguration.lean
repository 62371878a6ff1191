import VendorRs.CallManager.Recorder
import VendorRs.CallManager.Registration
import VendorRs.MainService.Preferences

/-!
# Reconfiguring a running service

What the preferences should come to is `Preferences.Gives`, which fixes the configuration and knows
of neither place where they are read. `onServiceConnected` leads to it from any state of the device
(`onServiceConnected_spec`), and each change that is handled leads from the configuration of the
store before to that of the store after (`Inv.step`). So a service that has been running gets where
a new one starts, `live_equals_restart`.

A listener can still throw, when telephony does not know the subscriptions; the state it leaves
behind is already the right one.
-/

namespace VendorRs.MainService

open Java Runs

/-! ## What the preferences come to -/

/-- The configuration that belongs to the preferences. -/
structure Preferences.Gives (p : Preferences) (c : Configuration) : Prop where
  control : c.buttonsBacklightControl =
    (!p.getBoolean .buttonsBacklightEnabledForced && p.getBoolean .buttonsBacklightEnabled)
  forced : c.buttonsBacklightControlForced = p.getBoolean .buttonsBacklightEnabledForced
  timeout : valueOf (p.getString .capacitiveButtonsBacklightTimeout) =
    .ok c.capacitiveButtonsTimeoutInt
  light : c.backlightOn = toString (p.getBoolean .buttonsBacklightEnabledForced)
  ims : c.mSubMgrRunning = (p.getBoolean .showVolteIcon || p.getBoolean .showVowifiIcon)
  headsUp : c.headsUpSetting =
    some (if p.getBoolean .headsUpNotificationsEnabled then "1" else "0")
  record : c.areWeAllowedToRecordACall = p.getBoolean .areWeAllowedToRecordCall
  vibrate : c.areWeAllowedToVibrateDuringCalls = p.getBoolean .areWeAllowedToVibrateDuringCalls
  running : c.isServiceRunning =
    (p.getBoolean .areWeAllowedToRecordCall || p.getBoolean .areWeAllowedToVibrateDuringCalls)
  receiver : c.callRecorderReceiver = c.isServiceRunning
  detector : c.outGoingNumDetector = c.isServiceRunning
  modem : c.mNetworkCallback = p.getBoolean .dynamicModem

variable {p : Preferences} {c c' : Configuration} {s s' : State} {e : Event}

/-- There is only one. -/
theorem Preferences.Gives.unique (h : p.Gives c) (h' : p.Gives c') : c = c' := by
  have htimeout : c.capacitiveButtonsTimeoutInt = c'.capacitiveButtonsTimeoutInt :=
    Except.ok.inj (h.timeout.symm.trans h'.timeout)
  have hrunning : c.isServiceRunning = c'.isServiceRunning := h.running.trans h'.running.symm
  cases c
  cases c'
  simp only [Configuration.mk.injEq]
  exact ⟨h.control.trans h'.control.symm, h.forced.trans h'.forced.symm, htimeout,
    h.light.trans h'.light.symm, h.ims.trans h'.ims.symm, h.headsUp.trans h'.headsUp.symm,
    h.record.trans h'.record.symm, h.vibrate.trans h'.vibrate.symm, hrunning,
    h.receiver.trans (hrunning.trans h'.receiver.symm),
    h.detector.trans (hrunning.trans h'.detector.symm), h.modem.trans h'.modem.symm⟩

/-! ## What should hold, and of which changes -/

/-- The value that is read is another one after the change. -/
def Change.Alters (p : Preferences) : Change → Prop
  | .boolean key value => value.getD key.defValue ≠ p.getBoolean key
  | .number key value => value.getD key.defValue ≠ p.getString key
  | .callRecordingDirectory value =>
      value.getD "CallRecording" ≠ p.callRecordingDirectory.getD "CallRecording"

/-- A change as it can come: it alters something, and it is not one of `buttonsBacklightEnabled`
while that is disabled on the screen. -/
structure Change.Allowed (p : Preferences) (c : Change) : Prop where
  alters : c.Alters p
  depends : ∀ value, c = .boolean .buttonsBacklightEnabled value →
    p.getBoolean .buttonsBacklightEnabledForced = false

/-- Changes that can come one after the other, the first of them with these preferences. -/
def Preferences.Allows (p : Preferences) : List Event → Prop
  | [] => True
  | e :: evs => e.change.Allowed p ∧ (p.set e.change).Allows evs

section Service

variable (getRafFromNetworkType : Int → Int)

/-- A new service that finds these preferences comes to the configuration that `s` has, whatever
else is the case on the device. -/
def AsRestarted (p : Preferences) (s : State) : Prop :=
  ∀ d : Device, (∃ n, valueOf d.triState = .ok n) →
    ∃ t, onServiceConnected getRafFromNetworkType (.created p d) d = .ok t ∧
      t.configuration = s.configuration

/-- Once the change is handled the service is as it would be after a restart, if there are numbers
where numbers are read. It is handled to the end if the subscriptions are known. -/
def Reconfigured (s : State) (e : Event) : Prop :=
  (s.prefs.set e.change).Numeric →
    AsRestarted getRafFromNetworkType (s.prefs.set e.change)
        (step getRafFromNetworkType s e).left ∧
      (e.subscriptionList ≠ none → ∃ s', step getRafFromNetworkType s e = .ok s')

end Service

/-! ## The invariant -/

structure Inv (s : State) : Prop where
  gives : s.prefs.Gives s.configuration
  calls : CallManager.Inv s.calls
  idle : s.calls.areWeRecordingACall = false
  managers : s.ims.managers.Inv
  context : s.modem.registered = true → s.modem.hasContext = true

/-- What comes of a change after which the store is `p`. -/
structure Handled (p : Preferences) (o : Outcome State State)
    (subscriptionList : Option (List Int)) : Prop where
  keeps : ∀ s', o = .ok s' → s'.prefs = p ∧ Inv s'
  left : p.Numeric → o.left.prefs = p ∧ Inv o.left
  returns : p.Numeric → subscriptionList ≠ none → ∃ s', o = .ok s'

section Handled

variable {o : Outcome State State} {subscriptionList : Option (List Int)}

theorem handled_of_ok (hok : o = .ok s') (hprefs : s'.prefs = p) (hinv : Inv s') :
    Handled p o subscriptionList where
  keeps := by
    intro s₁ hok₁
    cases hok.symm.trans hok₁
    exact ⟨hprefs, hinv⟩
  left := by
    rw [hok]
    exact fun _ => ⟨hprefs, hinv⟩
  returns := fun _ _ => ⟨s', hok⟩

/-- A change that is handled unless a text is no number. -/
theorem handled_of_keeps (hkeeps : ∀ s', o = .ok s' → s'.prefs = p ∧ Inv s')
    (hreturns : p.Numeric → ∃ s', o = .ok s') : Handled p o subscriptionList where
  keeps := hkeeps
  left := by
    intro hnumeric
    obtain ⟨s', hok⟩ := hreturns hnumeric
    rw [hok]
    exact hkeeps s' hok
  returns := fun hnumeric _ => hreturns hnumeric

/-- A change that is handled as far as it matters, even if it throws. -/
theorem handled_of_left (hprefs : o.left.prefs = p) (hinv : Inv o.left)
    (hreturns : subscriptionList ≠ none → ∃ s', o = .ok s') : Handled p o subscriptionList where
  keeps := by
    rintro s' rfl
    exact ⟨hprefs, hinv⟩
  left := fun _ => ⟨hprefs, hinv⟩
  returns := fun _ hknown => hreturns hknown

end Handled

/-! ## The parts -/

theorem readForced_eq (s : Backlight.State) :
    Backlight.readForced s = { s with
      buttonsBacklightControl := !s.forcedPref.getD false && s.enabledPref.getD false
      buttonsBacklightControlForced := s.forcedPref.getD false
      backlightOn := toString (s.forcedPref.getD false) } := by
  unfold Backlight.readForced
  cases s.forcedPref.getD false <;> rfl

theorem readTimeout_eq {s : Backlight.State} {timeout : Int}
    (h : valueOf (s.timeoutPref.getD "1500") = .ok timeout) :
    Backlight.readTimeout s = .ok { s with capacitiveButtonsTimeoutInt := timeout } := by
  unfold Backlight.readTimeout
  rw [h]
  rfl

theorem calls_running {s : CallManager.State} (h : CallManager.Inv s) :
    s.isServiceRunning = (s.recordCallPref.getD false || s.vibrateDuringCallsPref.getD false) := by
  rw [h.running, h.record_pref, h.vibrate_pref]

/-- While nothing is recorded the manager is open exactly if it is switched on. -/
theorem calls_receiver {s : CallManager.State} (h : CallManager.Inv s)
    (hidle : s.areWeRecordingACall = false) :
    s.callRecorderReceiver = s.isServiceRunning ∧ s.outGoingNumDetector = s.isServiceRunning := by
  have hlisten : s.stopListening = false := by
    apply Bool.eq_false_iff.mpr
    intro hlisten
    cases hidle.symm.trans (h.stop_recording hlisten)
  have hreceiver : s.callRecorderReceiver = s.isServiceRunning := by
    rw [h.receiver, hlisten, Bool.or_false]
    cases hrunning : s.isServiceRunning with
    | false => exact Bool.and_false _
    | true => rw [h.started hrunning, Bool.and_true]
  exact ⟨hreceiver, h.detector.trans hreceiver⟩

/-- `manageImsIcons` only touches the managers, and throws only if the subscriptions are not
known. -/
theorem ims_manage {s : Ims.Switch} (h : s.managers.Inv) (enabled : Bool)
    (subscriptionList : Option (List Int)) :
    ∃ managers, (s.manage enabled subscriptionList).left = { s with managers := managers } ∧
      managers.Inv ∧
      (subscriptionList ≠ none → ∃ s', s.manage enabled subscriptionList = .ok s') := by
  cases enabled with
  | false =>
      obtain ⟨managers, hmanage, hinv, -⟩ := Ims.Switch.manage_off h subscriptionList
      rw [hmanage]
      exact ⟨managers, rfl, hinv, fun _ => ⟨_, rfl⟩⟩
  | true =>
      cases subscriptionList with
      | none => exact ⟨s.managers, rfl, h, fun hknown => absurd rfl hknown⟩
      | some ids =>
          obtain ⟨managers, hmanage, hinv, -⟩ := Ims.Switch.manage_on h ids
          rw [hmanage]
          exact ⟨managers, rfl, hinv, fun _ => ⟨_, rfl⟩⟩

/-- The switch is as the preferences have it before the icons are looked at. -/
theorem ims_onPreferenceChanged {s : Ims.Switch} (h : s.managers.Inv)
    (subscriptionList : Option (List Int)) :
    ∃ registered managers, (Ims.onPreferenceChanged s subscriptionList).left =
        { s with mSubMgrRunning := s.wanted, registered := registered, managers := managers } ∧
      managers.Inv ∧
      (subscriptionList ≠ none → ∃ s', Ims.onPreferenceChanged s subscriptionList = .ok s') := by
  unfold Ims.onPreferenceChanged
  cases hwanted : s.wanted with
  | true =>
      rw [if_pos rfl]
      cases hrunning : s.mSubMgrRunning with
      | true =>
          obtain ⟨managers, hleft, hinv, hok⟩ := ims_manage h true subscriptionList
          refine ⟨s.registered, managers, hleft.trans ?_, hinv, hok⟩
          rw [← hrunning]
      | false =>
          obtain ⟨managers, hleft, hinv, hok⟩ := ims_manage
            (s := { s with registered := true, mSubMgrRunning := true }) h true subscriptionList
          exact ⟨true, managers, hleft, hinv, hok⟩
  | false =>
      rw [if_neg Bool.false_ne_true]
      cases hrunning : s.mSubMgrRunning with
      | true =>
          obtain ⟨managers, hleft, hinv, hok⟩ := ims_manage
            (s := { s with registered := false, mSubMgrRunning := false }) h false subscriptionList
          exact ⟨false, managers, hleft, hinv, hok⟩
      | false =>
          obtain ⟨managers, hleft, hinv, hok⟩ := ims_manage h false subscriptionList
          refine ⟨s.registered, managers, hleft.trans ?_, hinv, hok⟩
          rw [← hrunning]

section Service

variable (getRafFromNetworkType : Int → Int)

/-- The modem follows its preference from the start. -/
theorem modem_connected (h : s.modes.Numeric) (hmodem : s.modem = .created)
    (phone : ConnectivityManager.Phone) :
    ∃ modem : ConnectivityManager.Modem,
      startDynamicModem getRafFromNetworkType s phone = .ok { s with modem := modem } ∧
      modem.registered = s.dynamicModem.getD false ∧
      (modem.registered = true → modem.hasContext = true) := by
  unfold startDynamicModem
  cases hdynamic : s.dynamicModem.getD false with
  | true =>
      obtain ⟨modem, hstart⟩ := ConnectivityManager.Modem.onStartup_returns
        getRafFromNetworkType s.modem phone h
      obtain ⟨wifi, requested, rfl⟩ :=
        ConnectivityManager.Modem.onStartup_frame getRafFromNetworkType hstart
      refine ⟨⟨true, true, wifi, requested⟩, ?_, rfl, fun _ => rfl⟩
      rw [if_pos rfl, hstart]
      rfl
  | false =>
      refine ⟨.created, ?_, rfl, nofun⟩
      rw [if_neg Bool.false_ne_true, ← hmodem]

theorem calls_connected (s : CallManager.State) :
    ∃ f, CallManager.onServiceConnected s = s.withFlags f := by
  unfold CallManager.onServiceConnected
  dsimp only
  split
  · exact ⟨⟨_, _, _, _, s.stopListening, _, _, _⟩, rfl⟩
  · exact ⟨s.flags, rfl⟩

theorem backlight_connected {s : Backlight.State} {timeout : Int}
    (h : valueOf (s.timeoutPref.getD "1500") = .ok timeout) :
    Backlight.onServiceConnected s = .ok { s with
      capacitiveButtonsTimeoutInt := timeout
      buttonsBacklightControl := !s.forcedPref.getD false && s.enabledPref.getD false
      buttonsBacklightControlForced := s.forcedPref.getD false
      backlightOn := toString (s.forcedPref.getD false) } := by
  unfold Backlight.onServiceConnected
  rw [readTimeout_eq h, ok_bind, readForced_eq]
  rfl

/-! ## Connecting -/

/-- The new service once it is connected, in terms of what the parts have come to. -/
def State.connected (p : Preferences) (d : Device) (timeout : Int) (f : CallManager.Flags)
    (modem : ConnectivityManager.Modem) : State :=
  { State.created p d with
    backlight := { (State.created p d).backlight with
      capacitiveButtonsTimeoutInt := timeout
      buttonsBacklightControl := !p.getBoolean .buttonsBacklightEnabledForced &&
        p.getBoolean .buttonsBacklightEnabled
      buttonsBacklightControlForced := p.getBoolean .buttonsBacklightEnabledForced
      backlightOn := toString (p.getBoolean .buttonsBacklightEnabledForced) }
    calls := (State.created p d).calls.withFlags f
    ims := .connected (p.boolean .showVolteIcon) (p.boolean .showVowifiIcon)
    gaming := { (State.created p d).gaming with
      headsUpSetting :=
        some (if p.getBoolean .headsUpNotificationsEnabled then "1" else "0") }
    modem := modem }

theorem prefs_connected (p : Preferences) (d : Device) (timeout : Int) (f : CallManager.Flags)
    (modem : ConnectivityManager.Modem) :
    (State.connected p d timeout f modem).prefs = p := prefs_created p d

/-- A new service comes to the configuration that the preferences give. -/
theorem onServiceConnected_spec (p : Preferences) (d : Device) (hnumeric : p.Numeric)
    (hslider : ∃ n, valueOf d.triState = .ok n) :
    ∃ s, onServiceConnected getRafFromNetworkType (.created p d) d = .ok s ∧ s.prefs = p ∧
      Inv s := by
  obtain ⟨position, hposition⟩ := hslider
  obtain ⟨intensity, hintensity⟩ := hnumeric .vibrationIntensityString
  obtain ⟨timeout, htimeout⟩ := hnumeric .capacitiveButtonsBacklightTimeout
  have hmodes : (State.created p d).modes.Numeric :=
    ⟨hnumeric .preferredNetworkModeKey, hnumeric .preferredNetworkModeKeyWifi⟩
  obtain ⟨modem, hmodem, hregistered, hcontext⟩ :=
    modem_connected getRafFromNetworkType hmodes rfl d.phone
  have hintensity : valueOf ((State.created p d).vibrationIntensityString.getD "58") =
      .ok intensity := hintensity
  have htimeout : valueOf ((State.created p d).backlight.timeoutPref.getD "1500") =
      .ok timeout := htimeout
  have hcalls : CallManager.Inv (CallManager.onServiceConnected (State.created p d).calls) :=
    CallManager.inv_connected _ _ _
  obtain ⟨f, hflags⟩ := calls_connected (State.created p d).calls
  rw [hflags] at hcalls
  obtain ⟨hreceiver, hdetector⟩ := calls_receiver hcalls rfl
  refine ⟨.connected p d timeout f modem, ?_, prefs_connected p d timeout f modem, ?_⟩
  · unfold onServiceConnected
    rw [hposition, leaving_ok, ok_bind, hmodem, ok_bind]
    dsimp only
    rw [hintensity, leaving_ok, ok_bind, hflags, GamingMode.updateHeadsUp_eq,
      backlight_connected htimeout]
    rfl
  · have hgives : p.Gives (State.connected p d timeout f modem).configuration := {
      control := rfl
      forced := rfl
      timeout := htimeout
      light := rfl
      ims := rfl
      headsUp := rfl
      record := hcalls.record_pref
      vibrate := hcalls.vibrate_pref
      running := calls_running hcalls
      receiver := hreceiver
      detector := hdetector
      modem := hregistered }
    constructor
    · rw [prefs_connected]
      exact hgives
    · exact hcalls
    · rfl
    · exact Ims.Managers.inv_empty
    · exact hcontext

/-! ## A change -/

theorem Inv.asRestarted (h : Inv s) (hnumeric : s.prefs.Numeric) :
    AsRestarted getRafFromNetworkType s.prefs s := by
  intro d hslider
  obtain ⟨t, hconnected, hprefs, hinv⟩ :=
    onServiceConnected_spec getRafFromNetworkType s.prefs d hnumeric hslider
  refine ⟨t, hconnected, ?_⟩
  have hgives := hinv.gives
  rw [hprefs] at hgives
  exact hgives.unique h.gives

/-! Each change concerns one part of the service; the others stay as their preferences have them. -/

theorem Inv.withCalls (h : Inv s) {calls : CallManager.State} (hcalls : CallManager.Inv calls)
    (hidle : calls.areWeRecordingACall = false) : Inv { s with calls := calls } :=
  { h with
    gives := { h.gives with
      record := hcalls.record_pref
      vibrate := hcalls.vibrate_pref
      running := calls_running hcalls
      receiver := (calls_receiver hcalls hidle).1
      detector := (calls_receiver hcalls hidle).2 }
    calls := hcalls
    idle := hidle }

theorem Inv.withIms (h : Inv s) {ims : Ims.Switch} (hrunning : ims.mSubMgrRunning = ims.wanted)
    (hmanagers : ims.managers.Inv) : Inv { s with ims := ims } :=
  { h with
    gives := { h.gives with ims := hrunning }
    managers := hmanagers }

theorem Inv.withModem (h : Inv s) {modem : ConnectivityManager.Modem}
    {modes : ConnectivityManager.NetworkModes} {dynamicModem : Option Bool}
    (hregistered : modem.registered = dynamicModem.getD false)
    (hcontext : modem.registered = true → modem.hasContext = true) :
    Inv { s with modem := modem, modes := modes, dynamicModem := dynamicModem } :=
  { h with
    gives := { h.gives with modem := hregistered }
    context := hcontext }

theorem Inv.withBacklight (h : Inv s) {backlight : Backlight.State}
    (hcontrol : backlight.buttonsBacklightControl =
      (!backlight.forcedPref.getD false && backlight.enabledPref.getD false))
    (hforced : backlight.buttonsBacklightControlForced = backlight.forcedPref.getD false)
    (htimeout : valueOf (backlight.timeoutPref.getD "1500") =
      .ok backlight.capacitiveButtonsTimeoutInt)
    (hlight : backlight.backlightOn = toString (backlight.forcedPref.getD false)) :
    Inv { s with backlight := backlight } :=
  { h with
    gives := { h.gives with
      control := hcontrol
      forced := hforced
      timeout := htimeout
      light := hlight } }

/-! ## The changes -/

/-- A switch that is altered was on, or is on now. -/
theorem on_of_alters {value pref : Option Bool} (h : value.getD false ≠ pref.getD false) :
    value.getD false = true ∨ pref.getD false = true := by
  cases hvalue : value.getD false <;> cases hpref : pref.getD false <;> simp_all

section Changes

variable {value : Option Bool} {text : Option String} {phone : ConnectivityManager.Phone}
  {subscriptionList : Option (List Int)}

theorem Inv.recordCall (h : Inv s)
    (halters : value.getD false ≠ s.calls.recordCallPref.getD false) :
    Handled (s.prefs.set (.boolean .areWeAllowedToRecordCall value))
      (step getRafFromNetworkType s
        ⟨.boolean .areWeAllowedToRecordCall value, phone, subscriptionList⟩) subscriptionList := by
  have hon : value.getD false = true ∨ s.calls.isServiceRunning = true := by
    rw [calls_running h.calls, Bool.or_eq_true]
    exact (on_of_alters halters).imp_right .inl
  obtain ⟨calls, hchanged, hcalls⟩ := h.calls.recordCallChanged value hon
  obtain ⟨f, hflags⟩ :=
    CallManager.onRecordCallChanged_left { s.calls with recordCallPref := value }
  obtain rfl := (Outcome.left_of_ok hchanged).symm.trans hflags
  exact handled_of_ok (congrArg (Outcome.mapState _) hchanged)
    (prefs_store s (.boolean .areWeAllowedToRecordCall value)) (h.withCalls hcalls h.idle)

theorem Inv.vibrateDuringCalls (h : Inv s)
    (halters : value.getD false ≠ s.calls.vibrateDuringCallsPref.getD false) :
    Handled (s.prefs.set (.boolean .areWeAllowedToVibrateDuringCalls value))
      (step getRafFromNetworkType s
        ⟨.boolean .areWeAllowedToVibrateDuringCalls value, phone, subscriptionList⟩)
      subscriptionList := by
  have hon : value.getD false = true ∨ s.calls.isServiceRunning = true := by
    rw [calls_running h.calls, Bool.or_eq_true]
    exact (on_of_alters halters).imp_right .inr
  obtain ⟨calls, hchanged, hcalls⟩ := h.calls.vibrateDuringCallsChanged value hon
  obtain ⟨f, hflags⟩ :=
    CallManager.onVibrateDuringCallsChanged_left { s.calls with vibrateDuringCallsPref := value }
  obtain rfl := (Outcome.left_of_ok hchanged).symm.trans hflags
  exact handled_of_ok (congrArg (Outcome.mapState _) hchanged)
    (prefs_store s (.boolean .areWeAllowedToVibrateDuringCalls value)) (h.withCalls hcalls h.idle)

/-- Either switch of the icons. -/
theorem Inv.icons (h : Inv s) {ims : Ims.Switch} (hmanagers : ims.managers.Inv)
    (hprefs : State.prefs { s with ims := ims } = p) :
    Handled p ((Ims.onPreferenceChanged ims subscriptionList).mapState fun ims =>
      { s with ims := ims }) subscriptionList := by
  obtain ⟨registered, managers, hleft, hmanagers', hok⟩ :=
    ims_onPreferenceChanged hmanagers subscriptionList
  apply handled_of_left
  · rw [Outcome.left_mapState, hleft]
    exact hprefs
  · rw [Outcome.left_mapState, hleft]
    exact h.withIms rfl hmanagers'
  · intro hknown
    obtain ⟨ims', hims'⟩ := hok hknown
    exact ⟨_, Outcome.mapState_eq_ok.mpr ⟨ims', hims', rfl⟩⟩

/-- The preference of the dynamic modem. -/
theorem Inv.dynamicModem (h : Inv s)
    (halters : value.getD false ≠ s.dynamicModem.getD false) :
    Handled (s.prefs.set (.boolean .dynamicModem value))
      (step getRafFromNetworkType s ⟨.boolean .dynamicModem value, phone, subscriptionList⟩)
      subscriptionList := by
  show Handled _ (if value.getD false then _ else _) _
  cases hvalue : value.getD false with
  | true =>
      rw [if_pos rfl]
      apply handled_of_keeps
      · intro s' hok
        obtain ⟨modem, hstart, rfl⟩ := Outcome.mapState_eq_ok.mp hok
        obtain ⟨wifi, requested, rfl⟩ :=
          ConnectivityManager.Modem.onStartup_frame getRafFromNetworkType hstart
        exact ⟨prefs_store s (.boolean .dynamicModem value), h.withModem hvalue.symm fun _ => rfl⟩
      · intro hnumeric
        have hmodes : s.modes.Numeric :=
          ⟨hnumeric .preferredNetworkModeKey, hnumeric .preferredNetworkModeKeyWifi⟩
        obtain ⟨modem, hstart⟩ := ConnectivityManager.Modem.onStartup_returns
          getRafFromNetworkType s.modem phone hmodes
        exact ⟨_, Outcome.mapState_eq_ok.mpr ⟨modem, hstart, rfl⟩⟩
  | false =>
      rw [if_neg Bool.false_ne_true]
      -- it was on, so there is something to close
      have hregistered : s.modem.registered = true := by
        have hmodem : s.modem.registered = s.dynamicModem.getD false := h.gives.modem
        rw [hmodem]
        rw [hvalue] at halters
        exact Bool.eq_true_of_not_eq_false (Ne.symm halters)
      apply handled_of_keeps
      · intro s' hok
        obtain ⟨modem, hclose, rfl⟩ := Outcome.mapState_eq_ok.mp hok
        obtain ⟨requested, rfl⟩ := ConnectivityManager.Modem.onClose_frame
          getRafFromNetworkType (h.context hregistered) hclose
        exact ⟨prefs_store s (.boolean .dynamicModem value), h.withModem hvalue.symm nofun⟩
      · intro hnumeric
        have hmodes : s.modes.Numeric :=
          ⟨hnumeric .preferredNetworkModeKey, hnumeric .preferredNetworkModeKeyWifi⟩
        obtain ⟨modem, hclose⟩ := ConnectivityManager.Modem.onClose_returns
          getRafFromNetworkType s.modem phone hmodes
        exact ⟨_, Outcome.mapState_eq_ok.mpr ⟨modem, hclose, rfl⟩⟩

/-- Either preference of the network modes. -/
theorem Inv.networkMode (h : Inv s) {modes : ConnectivityManager.NetworkModes}
    (hprefs : State.prefs { s with modes := modes } = p) :
    Handled p (onNetworkModeChanged getRafFromNetworkType { s with modes := modes } phone)
      subscriptionList := by
  have hmodem : s.modem.registered = s.dynamicModem.getD false := h.gives.modem
  unfold onNetworkModeChanged
  dsimp only
  cases hdynamic : s.dynamicModem.getD false with
  | true =>
      rw [if_pos rfl]
      apply handled_of_keeps
      · intro s' hok
        obtain ⟨modem, hforce, rfl⟩ := Outcome.mapState_eq_ok.mp hok
        obtain ⟨wifi, requested, rfl⟩ :=
          ConnectivityManager.Modem.forceNetworkSettingsUpdate_frame getRafFromNetworkType hforce
        exact ⟨hprefs, h.withModem hmodem h.context⟩
      · intro hnumeric
        rw [← hprefs] at hnumeric
        have hmodes : modes.Numeric :=
          ⟨hnumeric .preferredNetworkModeKey, hnumeric .preferredNetworkModeKeyWifi⟩
        obtain ⟨modem, hforce⟩ := ConnectivityManager.Modem.forceNetworkSettingsUpdate_returns
          getRafFromNetworkType phone hmodes (h.context (hmodem.trans hdynamic))
        exact ⟨_, Outcome.mapState_eq_ok.mpr ⟨modem, hforce, rfl⟩⟩
  | false =>
      rw [if_neg Bool.false_ne_true]
      exact handled_of_ok rfl hprefs (h.withModem hmodem h.context)

theorem Inv.headsUp (h : Inv s) :
    let gaming := { s.gaming with headsUpNotificationsEnabled := value }
    Inv { s with gaming := GamingMode.updateHeadsUp gaming } := by
  intro gaming
  rw [GamingMode.updateHeadsUp_eq]
  exact { h with gives := { h.gives with headsUp := rfl } }

theorem Inv.forced (h : Inv s) :
    let backlight := { s.backlight with forcedPref := value }
    Inv { s with backlight := Backlight.readForced backlight } := by
  intro backlight
  rw [readForced_eq]
  exact h.withBacklight rfl rfl h.gives.timeout rfl

/-- While the light is forced, this would take the control back. -/
theorem Inv.enabled (h : Inv s)
    (hforced : s.prefs.getBoolean .buttonsBacklightEnabledForced = false) :
    let backlight := { s.backlight with enabledPref := value }
    Inv { s with backlight := Backlight.readEnabled backlight } := by
  have hforced : s.backlight.forcedPref.getD false = false := hforced
  refine h.withBacklight ?_ h.gives.forced h.gives.timeout h.gives.light
  show value.getD false = (!s.backlight.forcedPref.getD false && value.getD false)
  rw [hforced]
  rfl

theorem Inv.timeout (h : Inv s) :
    Handled (s.prefs.set (.number .capacitiveButtonsBacklightTimeout text))
      (step getRafFromNetworkType s
        ⟨.number .capacitiveButtonsBacklightTimeout text, phone, subscriptionList⟩)
      subscriptionList := by
  have hread {timeout : Int} (htimeout : valueOf (text.getD "1500") = .ok timeout) :
      step getRafFromNetworkType s
        ⟨.number .capacitiveButtonsBacklightTimeout text, phone, subscriptionList⟩ =
        .ok { s with backlight := { s.backlight with
          timeoutPref := text, capacitiveButtonsTimeoutInt := timeout } } :=
    congrArg (Outcome.mapState _)
      (readTimeout_eq (s := { s.backlight with timeoutPref := text }) htimeout)
  apply handled_of_keeps
  · intro s' hok
    obtain ⟨backlight, hbacklight, -⟩ := Outcome.mapState_eq_ok.mp hok
    obtain ⟨timeout, htimeout, -⟩ := bind_eq_ok.mp hbacklight
    have htimeout : valueOf (text.getD "1500") = .ok timeout := leaving_eq_ok.mp htimeout
    cases (hread htimeout).symm.trans hok
    exact ⟨prefs_store s (.number .capacitiveButtonsBacklightTimeout text),
      h.withBacklight h.gives.control h.gives.forced htimeout h.gives.light⟩
  · intro hnumeric
    obtain ⟨timeout, htimeout⟩ := hnumeric .capacitiveButtonsBacklightTimeout
    exact ⟨_, hread htimeout⟩

/-- Every change that can come leaves the configuration that it asks for. -/
theorem Inv.step (h : Inv s) (e : Event) (hallowed : e.change.Allowed s.prefs) :
    Handled (s.prefs.set e.change) (step getRafFromNetworkType s e) e.subscriptionList := by
  obtain ⟨change, phone, subscriptionList⟩ := e
  obtain ⟨halters, hdepends⟩ := hallowed
  have hprefs := prefs_store s change
  cases change with
  | callRecordingDirectory value =>
      exact handled_of_ok rfl hprefs (h.withCalls (h.calls.withMedia
        { s.calls.media with callRecordingDirectory := value }) h.idle)
  | boolean key value =>
      cases key with
      | areWeAllowedToRecordCall => exact h.recordCall getRafFromNetworkType halters
      | areWeAllowedToVibrateDuringCalls =>
          exact h.vibrateDuringCalls getRafFromNetworkType halters
      | dynamicModem => exact h.dynamicModem getRafFromNetworkType halters
      | showVolteIcon => exact h.icons h.managers hprefs
      | showVowifiIcon => exact h.icons h.managers hprefs
      | headsUpNotificationsEnabled =>
          refine handled_of_ok rfl ?_ h.headsUp
          rw [GamingMode.updateHeadsUp_eq]
          exact hprefs
      | buttonsBacklightEnabledForced =>
          refine handled_of_ok rfl ?_ h.forced
          rw [readForced_eq]
          exact hprefs
      | buttonsBacklightEnabled => exact handled_of_ok rfl hprefs (h.enabled (hdepends value rfl))
      | pocketModeEnabled => exact handled_of_ok rfl hprefs { h with gives := { h.gives with } }
      | ledManagerExtraEnabled =>
          exact handled_of_ok rfl hprefs { h with gives := { h.gives with } }
      | navBarEnabled => exact handled_of_ok rfl hprefs { h with gives := { h.gives with } }
  | number key value =>
      cases key with
      | preferredNetworkModeKeyWifi => exact h.networkMode getRafFromNetworkType hprefs
      | preferredNetworkModeKey => exact h.networkMode getRafFromNetworkType hprefs
      | vibrationIntensityString =>
          exact handled_of_ok rfl hprefs { h with gives := { h.gives with } }
      | capacitiveButtonsBacklightTimeout => exact h.timeout getRafFromNetworkType

end Changes

theorem Inv.reconfigured (h : Inv s) (e : Event) (hallowed : e.change.Allowed s.prefs) :
    Reconfigured getRafFromNetworkType s e := by
  intro hnumeric
  have hhandled := h.step getRafFromNetworkType e hallowed
  obtain ⟨hprefs, hleft⟩ := hhandled.left hnumeric
  have hrestarted := hleft.asRestarted getRafFromNetworkType
  rw [hprefs] at hrestarted
  exact ⟨hrestarted hnumeric, hhandled.returns hnumeric⟩

/-- **A service that is told of the changes of its preferences gets where a restart would have taken
it**: after any number of them it has the configuration that a new service comes to with the
preferences as they are then. -/
theorem live_equals_restart (p : Preferences) (d : Device) (evs : List Event)
    (hnumeric : p.Numeric) (hslider : ∃ n, valueOf d.triState = .ok n) (hallowed : p.Allows evs) :
    ∃ s, onServiceConnected getRafFromNetworkType (.created p d) d = .ok s ∧
      AsRestarted getRafFromNetworkType p s ∧
      EveryStep (step getRafFromNetworkType) (Reconfigured getRafFromNetworkType) s evs := by
  obtain ⟨s, hconnected, rfl, hinv⟩ :=
    onServiceConnected_spec getRafFromNetworkType p d hnumeric hslider
  refine ⟨s, hconnected, hinv.asRestarted getRafFromNetworkType hnumeric, ?_⟩
  clear hnumeric hconnected
  induction evs generalizing s with
  | nil => trivial
  | cons e evs ih =>
      obtain ⟨hfirst, hrest⟩ := hallowed
      apply everyStep_cons.mpr
      refine ⟨hinv.reconfigured getRafFromNetworkType e hfirst, ?_⟩
      intro s' hok
      obtain ⟨hprefs, hinv'⟩ := (hinv.step getRafFromNetworkType e hfirst).keeps s' hok
      rw [← hprefs] at hrest
      exact ih s' hinv' hrest

end Service

/-- Recording is switched on, the timeout is changed, the light is forced, and recording is switched
off again. -/
theorem live_equals_restart_four_changes :
    let p : Preferences := ⟨fun _ => none, fun _ => none, none⟩
    let phone : ConnectivityManager.Phone := ⟨-1, 1, 2⟩
    let d : Device := ⟨"1", phone, true, "false", ⟨false, none, none, none, fun _ => none⟩⟩
    ∃ s, onServiceConnected id (.created p d) d = .ok s ∧ AsRestarted id p s ∧
      EveryStep (step id) (Reconfigured id) s
        [⟨.boolean .areWeAllowedToRecordCall (some true), phone, some []⟩,
          ⟨.number .capacitiveButtonsBacklightTimeout (some "2000"), phone, some []⟩,
          ⟨.boolean .buttonsBacklightEnabledForced (some true), phone, some []⟩,
          ⟨.boolean .areWeAllowedToRecordCall (some false), phone, some []⟩] := by
  intro p phone d
  apply live_equals_restart id p d
  · intro key
    cases key
    exacts [⟨0, by decide⟩, ⟨0, by decide⟩, ⟨58, by decide⟩, ⟨1500, by decide⟩]
  · exact ⟨1, by decide⟩
  · have htimeout : "2000" ≠ "1500" := by decide
    exact ⟨⟨Bool.false_ne_true.symm, nofun⟩, ⟨htimeout, nofun⟩, ⟨Bool.false_ne_true.symm, nofun⟩,
      ⟨Bool.false_ne_true, nofun⟩, trivial⟩

end VendorRs.MainService
