import VendorRs.Lib.Runs
import VendorRs.ConnectivityManager.Basic

/-!
# The network mode follows Wi-Fi

While the dynamic modem is on, the mode last requested should be the one for Wi-Fi exactly while
Wi-Fi is associated. A callback that is about a cellular network is taken to say that there is no
Wi-Fi, but the two can be there at the same time. `follows_wifi_iff` says that nothing else goes
wrong.
-/

namespace VendorRs.ConnectivityManager

open Java Runs

/-- Wi-Fi is associated. -/
def Phone.associated (phone : Phone) : Bool := decide (phone.networkId ≠ -1)

def State.associated (s : State) : Bool := decide (s.networkId ≠ -1)

/-- The preference that is to be in force. -/
def State.wanted (s : State) : Option NetworkModeValue :=
  if s.associated then s.preferredNetworkModeWifi else s.preferredNetworkMode

def State.lastRequested (s : State) : Option Int := s.requested.getLast?.map Request.bitmask

/-- The mode of the preference is the last that was requested. -/
def Requested (getRafFromNetworkType : Int → Int) (s : State) (value : Option NetworkModeValue) :
    Prop :=
  ∃ mode, valueOf ((value.map NetworkModeValue.text).getD "0") = .ok mode ∧
    s.lastRequested = some (getRafFromNetworkType mode)

def Follows (getRafFromNetworkType : Int → Int) (s : State) : Prop :=
  s.isWifiConnected = s.associated ∧ Requested getRafFromNetworkType s s.wanted

def StaysFollowing (getRafFromNetworkType : Int → Int) (s : State) (e : Event) : Prop :=
  ∀ s', step getRafFromNetworkType s e = .ok s' → s'.dynamicModem = some true →
    Follows getRafFromNetworkType s'

/-- There is a default data subscription; and while the dynamic modem is on, Wi-Fi becoming
associated comes with `onAvailable` of a Wi-Fi network, and losing it with `onLost`. -/
def Reported (s : State) (e : Event) : Prop :=
  e.phone.defaultSubId ≠ invalidSubscriptionId ∧
    (s.dynamicModem = some true → e.phone.associated ≠ s.associated →
      match e.callback with
      | .available (some networkCapabilities) =>
          networkCapabilities.wifi = true ∧ e.phone.associated = true
      | .lost _ => e.phone.associated = false
      | _ => False)

/-- A Wi-Fi network becomes available only while Wi-Fi is associated, a cellular one only while it
is not, and none but a Wi-Fi network is lost with its capabilities still known while it is. -/
def TellsWifi (s : State) (e : Event) : Prop :=
  s.dynamicModem = some true →
    match e.callback with
    | .available (some networkCapabilities) =>
        if networkCapabilities.wifi then e.phone.associated = true
        else networkCapabilities.cellular = true → e.phone.associated = false
    | .lost (some networkCapabilities) =>
        networkCapabilities.wifi = false → e.phone.associated = false
    | _ => True

instance (raf : Int → Int) (s : State) (value : Option NetworkModeValue) :
    Decidable (Requested raf s value) :=
  match h : valueOf ((value.map NetworkModeValue.text).getD "0") with
  | .ok mode =>
      decidable_of_iff (s.lastRequested = some (raf mode))
        ⟨fun hlast => ⟨mode, h, hlast⟩, fun ⟨_, hmode, hlast⟩ =>
          Except.ok.inj (h.symm.trans hmode) ▸ hlast⟩
  | .error _ => isFalse fun ⟨_, hmode, _⟩ => nomatch h.symm.trans hmode

instance (raf : Int → Int) (s : State) : Decidable (Follows raf s) :=
  inferInstanceAs (Decidable (_ ∧ _))

instance (raf : Int → Int) (s : State) (e : Event) : Decidable (StaysFollowing raf s e) :=
  decidableForallOk (step raf s e) fun s' => s'.dynamicModem = some true → Follows raf s'

instance (s : State) : ∀ e, Decidable (Reported s e)
  | ⟨_, .available (some _)⟩ => inferInstanceAs (Decidable (_ ∧ (_ → _ → _ ∧ _)))
  | ⟨_, .lost _⟩ => inferInstanceAs (Decidable (_ ∧ (_ → _ → _ = _)))
  | ⟨_, .available none⟩ | ⟨_, .setDynamicModem _⟩ | ⟨_, .setNetworkMode _⟩
  | ⟨_, .setNetworkModeWifi _⟩ => inferInstanceAs (Decidable (_ ∧ (_ → _ → False)))

instance (s : State) : ∀ e, Decidable (TellsWifi s e)
  | ⟨phone, .available (some networkCapabilities)⟩ =>
      inferInstanceAs (Decidable (_ → if networkCapabilities.wifi = true then
        phone.associated = true else _ → _))
  | ⟨_, .lost (some _)⟩ => inferInstanceAs (Decidable (_ → _ → _))
  | ⟨_, .available none⟩ | ⟨_, .lost none⟩ | ⟨_, .setDynamicModem _⟩ | ⟨_, .setNetworkMode _⟩
  | ⟨_, .setNetworkModeWifi _⟩ => inferInstanceAs (Decidable (_ → True))

/-- The dynamic modem is on and the callback registered. -/
structure Listening (s : State) : Prop where
  on : s.dynamicModem = some true
  hasContext : s.hasContext = true
  registered : s.registered = true

/-- The dynamic modem is off. -/
structure Off (s : State) : Prop where
  off : s.dynamicModem ≠ some true
  unregistered : s.registered = false

/-- The dynamic modem is on and all is right, or it is off. -/
def Inv (raf : Int → Int) (s : State) : Prop := (Listening s ∧ Follows raf s) ∨ Off s

variable {raf : Int → Int} {s s' : State} {phone : Phone} {wifi : Bool}

/-! ## Requests -/

/-- With a default data subscription the mode of the preference is requested, of one modem or of
both, and nothing else changes. -/
theorem forceMode_spec (raf : Int → Int) (s : State)
    (hvalid : phone.defaultSubId ≠ invalidSubscriptionId) (value : Option NetworkModeValue) :
    ∃ s', forceMode raf s phone value = .ok s' ∧ s' = { s with requested := s'.requested } ∧
      Requested raf s' value := by
  obtain ⟨mode, hmode⟩ := valueOf_networkMode value
  obtain ⟨requested, hforced, hlast⟩ := s.toModem.forceMode_requests raf hvalid hmode
  refine ⟨{ s with requested := requested }, ?_, rfl, mode, hmode, hlast⟩
  rw [forceMode, hforced]
  rfl

/-- The preference of one of the two situations. -/
def State.preference (s : State) (wifi : Bool) : Option NetworkModeValue :=
  if wifi then s.preferredNetworkModeWifi else s.preferredNetworkMode

/-- The mode for one of the two situations has been requested and the flag set to it, which is right
exactly if that is the situation. -/
structure Sets (raf : Int → Int) (s s' : State) (wifi : Bool) : Prop where
  same : s' = { s with requested := s'.requested, isWifiConnected := wifi }
  follows_iff : Follows raf s' ↔ s.associated = wifi

theorem sets_of_requested {requested : List Request}
    (hrequested : Requested raf { s with requested := requested, isWifiConnected := wifi }
      (s.preference wifi)) :
    Sets raf s { s with requested := requested, isWifiConnected := wifi } wifi where
  same := rfl
  follows_iff := by
    constructor
    · rintro ⟨hflag, -⟩
      exact hflag.symm
    · intro hassociated
      refine ⟨hassociated.symm, ?_⟩
      have hwanted : s.wanted = s.preference wifi := by
        rw [State.wanted, hassociated, State.preference]
      rw [← hwanted] at hrequested
      exact hrequested

/-- Both `force` methods, whether the flag is set before or after. -/
theorem forceMode_sets (raf : Int → Int) (s : State)
    (hvalid : phone.defaultSubId ≠ invalidSubscriptionId) (wifi : Bool) :
    ∃ requested, forceMode raf s phone (s.preference wifi) =
        .ok { s with requested := requested } ∧
      Sets raf s { s with requested := requested, isWifiConnected := wifi } wifi := by
  obtain ⟨s', hok, hsame, hrequested⟩ := forceMode_spec raf s hvalid (s.preference wifi)
  rw [hsame] at hok hrequested
  refine ⟨s'.requested, hok, ?_⟩
  apply sets_of_requested
  exact hrequested

/-- The mode for Wi-Fi, and then the flag. -/
theorem forceNetworkMode_sets (raf : Int → Int) (s : State)
    (hvalid : phone.defaultSubId ≠ invalidSubscriptionId) :
    ∃ s', (do
        let s ← forceNetworkMode raf s phone
        .ok { s with isWifiConnected := true } : Outcome State State) = .ok s' ∧
      Sets raf s s' true := by
  obtain ⟨requested, hok, hsets⟩ := forceMode_sets raf s hvalid true
  refine ⟨_, ?_, hsets⟩
  change forceNetworkMode raf s phone = _ at hok
  rw [hok, ok_bind]

theorem wifiLost_sets (raf : Int → Int) (s : State)
    (hvalid : phone.defaultSubId ≠ invalidSubscriptionId) :
    ∃ s', wifiLost raf s phone = .ok s' ∧ Sets raf s s' false := by
  obtain ⟨requested, hok, hsets⟩ := forceMode_sets raf s hvalid false
  refine ⟨_, ?_, hsets⟩
  change forceDefaultNetworkMode raf s phone = _ at hok
  rw [wifiLost, hok, ok_bind]

/-- The flag, and then the mode: by what `WifiManager` says. -/
theorem forceNetworkSettingsUpdate_sets (raf : Int → Int)
    (hvalid : phone.defaultSubId ≠ invalidSubscriptionId) (hcontext : s.hasContext = true) :
    ∃ s', forceNetworkSettingsUpdate raf s phone = .ok s' ∧ Sets raf s s' phone.associated := by
  obtain ⟨requested, hok, hsets⟩ :=
    forceMode_sets raf { s with isWifiConnected := phone.associated } hvalid phone.associated
  refine ⟨_, ?_, hsets.same, hsets.follows_iff⟩
  rw [← hok, forceNetworkSettingsUpdate, Modem.forceNetworkSettingsUpdate, if_pos hcontext]
  by_cases hid : phone.networkId = -1
  · have hassociated : phone.associated = false := by simp [Phone.associated, hid]
    rw [if_pos hid, hassociated]
    rfl
  · have hassociated : phone.associated = true := by simp [Phone.associated, hid]
    rw [if_neg hid, hassociated]
    rfl

/-! ## Callbacks -/

/-- A handler has returned with the callback still registered, and all is right exactly if `P`. -/
structure Settles (raf : Int → Int) (s' : State) (P : Prop) : Prop extends Listening s' where
  follows_iff : Follows raf s' ↔ P

theorem Settles.congr {P Q : Prop} (h : Settles raf s' P) (hiff : P ↔ Q) : Settles raf s' Q :=
  { h with follows_iff := h.follows_iff.trans hiff }

theorem Sets.settled (h : Sets raf s s' wifi) (hs : Listening s) :
    Settles raf s' (s.associated = wifi) := by
  have hsame := h.same
  refine ⟨⟨?_, ?_, ?_⟩, h.follows_iff⟩
  · rw [hsame]
    exact hs.on
  · rw [hsame]
    exact hs.hasContext
  · rw [hsame]
    exact hs.registered

/-- Nothing is done, and the association is what it was. -/
theorem Follows.of_same (h : Follows raf s) (hsame : phone.associated = s.associated) :
    Follows raf { s with networkId := phone.networkId } := by
  obtain ⟨hflag, hrequested⟩ := h
  refine ⟨hflag.trans hsame.symm, ?_⟩
  have hwanted : State.wanted { s with networkId := phone.networkId } = s.wanted := by
    show (if phone.associated then _ else _) = _
    rw [hsame]
    rfl
  rw [hwanted]
  exact hrequested

theorem onAvailable_settles (hs : Listening s) (hvalid : phone.defaultSubId ≠ invalidSubscriptionId)
    (networkCapabilities : NetworkCapabilities)
    (hother : networkCapabilities.wifi = false → networkCapabilities.cellular = false →
      Follows raf s) :
    ∃ s', onAvailable raf s phone (some networkCapabilities) = .ok s' ∧
      Settles raf s' (if networkCapabilities.wifi then s.associated = true
        else networkCapabilities.cellular = true → s.associated = false) := by
  obtain ⟨wifi, cellular⟩ := networkCapabilities
  cases wifi with
  | true =>
      obtain ⟨s', hok, hsets⟩ := forceNetworkMode_sets raf s hvalid
      exact ⟨s', hok, (hsets.settled hs).congr (by simp)⟩
  | false =>
      cases cellular with
      | true =>
          obtain ⟨s', hok, hsets⟩ := wifiLost_sets raf s hvalid
          exact ⟨s', hok, (hsets.settled hs).congr (by simp)⟩
      | false => exact ⟨s, rfl, hs, iff_of_true (hother rfl rfl) (by simp)⟩

/-- `hkept` and `hold` are what is known of the flag: it says what was reported before. -/
theorem onLost_settles (hs : Listening s) (hvalid : phone.defaultSubId ≠ invalidSubscriptionId)
    (hphone : phone.networkId = s.networkId)
    (hkept : s.isWifiConnected = s.associated → Follows raf s)
    (hold : s.associated = true → s.isWifiConnected = true)
    (networkCapabilities : Option NetworkCapabilities) :
    ∃ s', onLost raf s phone networkCapabilities = .ok s' ∧
      Settles raf s' (∀ c ∈ networkCapabilities, c.wifi = false → s.associated = false) := by
  obtain ⟨s', hok, hsets⟩ := wifiLost_sets raf s hvalid
  unfold onLost
  cases hassociated : s.associated with
  | false =>
      have hid : phone.networkId = -1 := by
        rw [hphone]
        simpa [State.associated] using hassociated
      cases hflag : s.isWifiConnected with
      | true =>
          rw [if_pos ⟨hid, rfl⟩]
          exact ⟨s', hok, (hsets.settled hs).congr (by simp [hassociated])⟩
      | false =>
          have hfollows := hkept (hflag.trans hassociated.symm)
          refine ⟨s, ?_, hs, iff_of_true hfollows (by simp)⟩
          cases networkCapabilities <;> simp
  | true =>
      have hid : phone.networkId ≠ -1 := by
        rw [hphone]
        simpa [State.associated] using hassociated
      have hflag := hold hassociated
      have hfollows := hkept (hflag.trans hassociated.symm)
      rw [if_neg (fun hlost => hid hlost.1)]
      cases networkCapabilities with
      | none => exact ⟨s, rfl, hs, iff_of_true hfollows nofun⟩
      | some networkCapabilities =>
          cases hwifi : networkCapabilities.wifi with
          | true => exact ⟨s, by simp [hwifi], hs, iff_of_true hfollows (by simp [hwifi])⟩
          | false =>
              -- something else is lost, and taken for Wi-Fi
              refine ⟨s', ?_, (hsets.settled hs).congr (by simp [hassociated, hwifi])⟩
              simp only [hwifi, hflag, and_self, if_true]
              exact hok

/-! ## Steps -/

theorem switchedOff_off (hcontext : s.hasContext = false → s.registered = false)
    (hok : onDynamicModemChanged raf { s with dynamicModem := some false } phone = .ok s') :
    Off s' := by
  change onClose raf { s with dynamicModem := some false } phone = .ok s' at hok
  obtain ⟨modem, hclose, rfl⟩ := Outcome.mapState_eq_ok.mp hok
  refine ⟨nofun, ?_⟩
  by_cases hctx : s.hasContext = true
  · obtain ⟨requested, rfl⟩ := Modem.onClose_frame raf hctx hclose
    rfl
  · have hnone : s.hasContext = false := by simpa using hctx
    rw [Modem.onClose, if_neg hctx] at hclose
    cases hclose
    exact hcontext hnone

/-- A network mode is chosen while the dynamic modem is on. -/
theorem setMode_settles (c : Prop) [Decidable c] (s₁ : State) (hsame : Settles raf s True)
    (hs₁ : Listening s₁) (hvalid : phone.defaultSubId ≠ invalidSubscriptionId)
    (hphone : phone.networkId = s₁.networkId) :
    ∃ s', (if c then .ok s else onNetworkModeChanged raf s₁ phone) = .ok s' ∧
      Settles raf s' True := by
  split
  · exact ⟨s, rfl, hsame⟩
  · obtain ⟨s', hok, hsets⟩ := forceNetworkSettingsUpdate_sets raf hvalid hs₁.hasContext
    refine ⟨s', ?_, (hsets.settled hs₁).congr (iff_true_intro ?_)⟩
    · rw [onNetworkModeChanged, hs₁.on]
      exact hok
    · rw [State.associated, Phone.associated, hphone]

/-- A network that is neither Wi-Fi nor cellular comes with no change. -/
theorem step_available (hs : Listening s) (hfollows : Follows raf s)
    {networkCapabilities : NetworkCapabilities}
    (hreported : Reported s ⟨phone, .available (some networkCapabilities)⟩) :
    ∃ s', step raf s ⟨phone, .available (some networkCapabilities)⟩ = .ok s' ∧
      Settles raf s' (TellsWifi s ⟨phone, .available (some networkCapabilities)⟩) := by
  obtain ⟨hvalid, hreport⟩ := hreported
  have hs₀ : Listening { s with networkId := phone.networkId } := { hs with }
  have hother : networkCapabilities.wifi = false → networkCapabilities.cellular = false →
      Follows raf { s with networkId := phone.networkId } := by
    intro hwifi _
    apply hfollows.of_same
    by_contra hchanged
    cases hwifi.symm.trans (hreport hs.on hchanged).1
  obtain ⟨s', hok, hsettles⟩ := onAvailable_settles hs₀ hvalid networkCapabilities hother
  refine ⟨s', ?_, hsettles.congr (imp_iff_right hs.on).symm⟩
  rw [step, handle, if_pos hs₀.registered]
  exact hok

/-- Wi-Fi does not become associated with the loss of a network. -/
theorem step_lost (hs : Listening s) (hfollows : Follows raf s)
    {networkCapabilities : Option NetworkCapabilities}
    (hreported : Reported s ⟨phone, .lost networkCapabilities⟩) :
    ∃ s', step raf s ⟨phone, .lost networkCapabilities⟩ = .ok s' ∧
      Settles raf s' (TellsWifi s ⟨phone, .lost networkCapabilities⟩) := by
  obtain ⟨hvalid, hreport⟩ := hreported
  have hs₀ : Listening { s with networkId := phone.networkId } := { hs with }
  have hold : phone.associated = true → s.isWifiConnected = true := by
    intro hassociated
    rw [hfollows.1]
    by_contra hold
    have hchanged : phone.associated ≠ s.associated :=
      fun heq => hold (heq.symm.trans hassociated)
    cases hassociated.symm.trans (hreport hs.on hchanged)
  have hkept : s.isWifiConnected = phone.associated →
      Follows raf { s with networkId := phone.networkId } :=
    fun hflag => hfollows.of_same (hflag.symm.trans hfollows.1)
  obtain ⟨s', hok, hsettles⟩ := onLost_settles hs₀ hvalid rfl hkept hold networkCapabilities
  refine ⟨s', ?_, hsettles.congr ?_⟩
  · rw [step, handle, if_pos hs₀.registered]
    exact hok
  · cases networkCapabilities with
    | none => simp [TellsWifi]
    | some networkCapabilities => simp [TellsWifi, hs.on, State.associated, Phone.associated]

theorem step_on (hs : Listening s) (hfollows : Follows raf s) {e : Event}
    (hreported : Reported s e) :
    (∃ s', step raf s e = .ok s' ∧ Settles raf s' (TellsWifi s e)) ∨
      (TellsWifi s e ∧ ∀ s', step raf s e = .ok s' → Off s') := by
  obtain ⟨phone, callback⟩ := e
  have hvalid := hreported.1
  have hreport := hreported.2 hs.on
  have hsame : phone.associated = s.associated →
      Settles raf { s with networkId := phone.networkId } True :=
    fun hsame => ⟨{ hs with }, iff_true_intro (hfollows.of_same hsame)⟩
  cases callback with
  | available networkCapabilities =>
      cases networkCapabilities with
      | none =>
          refine .inr ⟨fun _ => trivial, ?_⟩
          simp [step, handle, hs.registered, onAvailable]
      | some networkCapabilities => exact .inl (step_available hs hfollows hreported)
  | lost networkCapabilities => exact .inl (step_lost hs hfollows hreported)
  | setDynamicModem value =>
      cases value with
      | true =>
          refine .inl ⟨_, ?_, (hsame ?_).congr (by simp [TellsWifi])⟩
          · rw [step, handle, if_pos hs.on]
          · exact not_not.mp hreport
      | false =>
          refine .inr ⟨fun _ => trivial, ?_⟩
          intro s' hok
          rw [step, handle, if_neg (by simp [hs.on])] at hok
          refine switchedOff_off ?_ hok
          intro hnone
          cases hs.hasContext.symm.trans hnone
  | setNetworkMode value =>
      obtain ⟨s', hok, hsettles⟩ := setMode_settles (s.preferredNetworkMode = some value)
        { s with networkId := phone.networkId, preferredNetworkMode := some value }
        (hsame (not_not.mp hreport)) { hs with } hvalid rfl
      exact .inl ⟨s', hok, hsettles.congr (by simp [TellsWifi])⟩
  | setNetworkModeWifi value =>
      obtain ⟨s', hok, hsettles⟩ := setMode_settles (s.preferredNetworkModeWifi = some value)
        { s with networkId := phone.networkId, preferredNetworkModeWifi := some value }
        (hsame (not_not.mp hreport)) { hs with } hvalid rfl
      exact .inl ⟨s', hok, hsettles.congr (by simp [TellsWifi])⟩

/-- A callback, which is not registered. -/
theorem Off.callback (hs : Off s) {x : Outcome State State}
    (hok : (if s.registered then x else .ok s) = .ok s') : Off s' := by
  rw [if_neg (by simp [hs.unregistered])] at hok
  cases hok
  exact hs

theorem Off.setMode (c : Prop) [Decidable c] (s₁ : State) (hs : Off s) (hs₁ : Off s₁)
    (hok : (if c then .ok s else onNetworkModeChanged raf s₁ phone) = .ok s') : Off s' := by
  split at hok
  · cases hok
    exact hs
  · have hmodem : s₁.dynamicModem.getD false = false := by
      have hoff := hs₁.off
      cases hvalue : s₁.dynamicModem with
      | none => rfl
      | some value => simpa [hvalue] using hoff
    rw [onNetworkModeChanged, if_neg (by simp [hmodem])] at hok
    cases hok
    exact hs₁

/-- With the dynamic modem off, only switching it on matters. -/
theorem step_off (hs : Off s) {e : Event} (hreported : Reported s e) :
    (∃ s', step raf s e = .ok s' ∧ Settles raf s' (TellsWifi s e)) ∨
      (TellsWifi s e ∧ ∀ s', step raf s e = .ok s' → Off s') := by
  obtain ⟨phone, callback⟩ := e
  obtain ⟨hvalid, -⟩ := hreported
  have htells : ∀ callback, TellsWifi s ⟨phone, callback⟩ := fun _ hon => absurd hon hs.off
  have hs₀ : Off { s with networkId := phone.networkId } := { hs with }
  cases callback with
  | available networkCapabilities => exact .inr ⟨htells _, fun _ hok => hs₀.callback hok⟩
  | lost networkCapabilities => exact .inr ⟨htells _, fun _ hok => hs₀.callback hok⟩
  | setDynamicModem value =>
      cases value with
      | true =>
          obtain ⟨s', hok, hsets⟩ := forceNetworkSettingsUpdate_sets raf
            (s := { s with
              networkId := phone.networkId
              dynamicModem := some true
              hasContext := true
              registered := true }) hvalid rfl
          refine .inl ⟨s', ?_, (hsets.settled ⟨rfl, rfl, rfl⟩).congr ?_⟩
          · rw [step, handle, if_neg hs.off]
            exact hok
          · exact iff_of_true rfl (htells _)
      | false =>
          refine .inr ⟨htells _, ?_⟩
          intro s' hok
          rw [step, handle] at hok
          split at hok
          · cases hok
            exact hs₀
          · refine switchedOff_off ?_ hok
            exact fun _ => hs.unregistered
  | setNetworkMode value =>
      refine .inr ⟨htells _, ?_⟩
      intro s' hok
      exact hs₀.setMode (s.preferredNetworkMode = some value)
        { s with networkId := phone.networkId, preferredNetworkMode := some value } { hs with } hok
  | setNetworkModeWifi value =>
      refine .inr ⟨htells _, ?_⟩
      intro s' hok
      exact hs₀.setMode (s.preferredNetworkModeWifi = some value)
        { s with networkId := phone.networkId, preferredNetworkModeWifi := some value } { hs with }
        hok

/-- What a step does: the callback is registered and all is right exactly if `TellsWifi`, or the
dynamic modem is off, or it ends with an exception. -/
theorem Inv.step_cases (h : Inv raf s) {e : Event} (hreported : Reported s e) :
    (∃ s', step raf s e = .ok s' ∧ Settles raf s' (TellsWifi s e)) ∨
      (TellsWifi s e ∧ ∀ s', step raf s e = .ok s' → Off s') := by
  rcases h with ⟨hs, hfollows⟩ | hoff
  · exact step_on hs hfollows hreported
  · exact step_off hoff hreported

/-! ## Whole runs -/

theorem Inv.step {e : Event} (h : Inv raf s) (hreported : Reported s e) (htells : TellsWifi s e)
    (hok : ConnectivityManager.step raf s e = .ok s') : Inv raf s' := by
  rcases h.step_cases hreported with ⟨s₁, hok₁, hsettles⟩ | ⟨-, hoff⟩
  · cases hok₁.symm.trans hok
    exact .inl ⟨hsettles.toListening, hsettles.follows_iff.mpr htells⟩
  · exact .inr (hoff s' hok)

theorem Inv.staysFollowing_iff {e : Event} (h : Inv raf s) (hreported : Reported s e) :
    StaysFollowing raf s e ↔ TellsWifi s e := by
  rcases h.step_cases hreported with ⟨s₁, hok₁, hsettles⟩ | ⟨htells, hoff⟩
  · rw [← hsettles.follows_iff]
    constructor
    · intro hstays
      exact hstays s₁ hok₁ hsettles.on
    · intro hfollows s' hok _
      cases hok₁.symm.trans hok
      exact hfollows
  · refine iff_of_true ?_ htells
    intro s' hok hon
    exact absurd hon (hoff s' hok).off

theorem inv_onServiceConnected {dynamicModem : Option Bool}
    {preferredNetworkMode preferredNetworkModeWifi : Option NetworkModeValue}
    (hvalid : phone.defaultSubId ≠ invalidSubscriptionId)
    (hok : onServiceConnected raf
      (.installed dynamicModem preferredNetworkMode preferredNetworkModeWifi) phone = .ok s) :
    Inv raf s := by
  by_cases hon : dynamicModem = some true
  · subst hon
    obtain ⟨s', hok', hsets⟩ := forceNetworkSettingsUpdate_sets raf
      (s := ⟨⟨true, true, false, []⟩, some true, preferredNetworkMode, preferredNetworkModeWifi,
        phone.networkId⟩) hvalid rfl
    cases hok'.symm.trans hok
    have hsettles := hsets.settled ⟨rfl, rfl, rfl⟩
    exact .inl ⟨hsettles.toListening, hsettles.follows_iff.mpr rfl⟩
  · have hoff : dynamicModem.getD false = false := by
      cases dynamicModem with
      | none => rfl
      | some value => simpa using hon
    rw [onServiceConnected, if_neg (by simp [State.installed, hoff])] at hok
    cases hok
    exact .inr ⟨hon, rfl⟩

/-- **Once the service is connected the mode last requested is the one for Wi-Fi exactly while Wi-Fi
is associated, and `isWifiConnected` says so, if and only if no callback is about a network of the
other kind.** -/
theorem follows_wifi_iff (getRafFromNetworkType : Int → Int) (dynamicModem : Option Bool)
    (preferredNetworkMode preferredNetworkModeWifi : Option NetworkModeValue) (phone : Phone)
    (hvalid : phone.defaultSubId ≠ invalidSubscriptionId) (s : State)
    (hconnected : onServiceConnected getRafFromNetworkType
      (.installed dynamicModem preferredNetworkMode preferredNetworkModeWifi) phone = .ok s)
    (evs : List Event) (hreported : EveryStep (step getRafFromNetworkType) Reported s evs) :
    (s.dynamicModem = some true → Follows getRafFromNetworkType s) ∧
      (EveryStep (step getRafFromNetworkType) (StaysFollowing getRafFromNetworkType) s evs ↔
        EveryStep (step getRafFromNetworkType) TellsWifi s evs) := by
  have hinv := inv_onServiceConnected hvalid hconnected
  constructor
  · intro hon
    rcases hinv with ⟨-, hfollows⟩ | hoff
    · exact hfollows
    · exact absurd hon hoff.off
  · apply everyStep_iff (P := Inv getRafFromNetworkType) (B := Reported)
    · intro s e s' h hreported htells hok
      exact h.step hreported htells hok
    · intro s e h hreported
      exact h.staysFollowing_iff hreported
    · exact hinv
    · exact hreported

/-! With GSM only (mode 1) on Wi-Fi and LTE only (mode 11) without, and both modems active. -/

def gsmOrLte (networkMode : Int) : Int := if networkMode = 1 then 0x8003 else 0x41000

def onWifi : Phone := ⟨5, 1, 2⟩

def startedOnWifi : State :=
  ⟨⟨true, true, true, [⟨1, 0x8003⟩, ⟨2, 0x8003⟩]⟩, some true, some ⟨"11", by decide⟩,
    some ⟨"1", by decide⟩, 5⟩

/-- A cellular network becomes available beside Wi-Fi. -/
theorem mode_lost_beside_wifi :
    onServiceConnected gsmOrLte
        (.installed (some true) (some ⟨"11", by decide⟩) (some ⟨"1", by decide⟩)) onWifi =
      .ok startedOnWifi ∧
    EveryStep (step gsmOrLte) Reported startedOnWifi [⟨onWifi, .available (some ⟨false, true⟩)⟩] ∧
    ¬ EveryStep (step gsmOrLte) (StaysFollowing gsmOrLte) startedOnWifi
      [⟨onWifi, .available (some ⟨false, true⟩)⟩] := by
  decide +kernel

/-- Wi-Fi goes and comes back, and the cellular network in between is lost without a trace. -/
theorem follows_wifi_there_and_back :
    EveryStep (step gsmOrLte) (StaysFollowing gsmOrLte) startedOnWifi
      [⟨⟨-1, 1, 2⟩, .lost none⟩, ⟨⟨-1, 1, 2⟩, .available (some ⟨false, true⟩)⟩,
        ⟨⟨-1, 1, 2⟩, .setNetworkMode ⟨"1", by decide⟩⟩,
        ⟨onWifi, .available (some ⟨true, false⟩)⟩, ⟨onWifi, .lost none⟩] :=
  (follows_wifi_iff gsmOrLte (some true) (some ⟨"11", by decide⟩) (some ⟨"1", by decide⟩) onWifi
    (by decide) startedOnWifi (by decide +kernel) _ (by decide +kernel)).2.mpr (by decide +kernel)

end VendorRs.ConnectivityManager
