import VendorRs.Java.Lang

/-!
# The dynamic modem, apart from its preferences

The functions of `ConnectivityManagerExtra` take whatever text a preference holds for a network
mode; that it comes from a list is known to the screen where it is set, and to nobody else. So they
are on any text, which need not be a number. What telephony makes of a network mode,
`getRafFromNetworkType`, is a parameter.
-/

namespace VendorRs.ConnectivityManager

open Java

/-- What the system services say while an event is handled. -/
structure Phone where
  /-- `WifiManager.getConnectionInfo().getNetworkId()`. -/
  networkId : Int
  /-- `SubscriptionManager.getDefaultDataSubscriptionId()`. -/
  defaultSubId : Int
  activeModemCount : Int
  deriving DecidableEq, Repr

/-- A bitmask given to `setPreferredNetworkTypeBitmask`, and for which subscription. -/
structure Request where
  subId : Int
  bitmask : Int
  deriving DecidableEq, Repr

structure Modem where
  /-- `mContext` is not `null`. -/
  hasContext : Bool
  /-- `mNetworkCallback` is registered. -/
  registered : Bool
  isWifiConnected : Bool
  /-- Everything requested from telephony, oldest first. -/
  requested : List Request
  deriving DecidableEq

/-- A new `ConnectivityManagerExtra`. -/
def Modem.created : Modem := ⟨false, false, false, []⟩

/-- The texts of the two preferences, where they are set. -/
structure NetworkModes where
  preferredNetworkMode : Option String
  preferredNetworkModeWifi : Option String
  deriving DecidableEq, Repr

def invalidSubscriptionId : Int := -1

def Modem.setPreferredNetworkTypeBitmask (s : Modem) (subId bitmask : Int) : Modem :=
  { s with requested := s.requested ++ [⟨subId, bitmask⟩] }

section Modem

variable (getRafFromNetworkType : Int → Int)

/-- The body of `forceDefaultNetworkMode` and `forceNetworkMode`, which differ in the preference
they read. -/
def Modem.forceMode (s : Modem) (phone : Phone) (value : Option String) : Outcome Modem Modem := do
  let networkMode ← leaving s (valueOf (value.getD "0"))
  let defaultSubId := phone.defaultSubId
  if defaultSubId = invalidSubscriptionId then .ok s
  else
    let raf := getRafFromNetworkType networkMode
    let s := s.setPreferredNetworkTypeBitmask defaultSubId raf
    if phone.activeModemCount > 1 then
      if defaultSubId = 1 then .ok (s.setPreferredNetworkTypeBitmask (defaultSubId + 1) raf)
      else if defaultSubId = 2 then .ok (s.setPreferredNetworkTypeBitmask (defaultSubId - 1) raf)
      else .ok s
    else .ok s

/-- Set a mode based on the Wi-Fi connection status. -/
def Modem.forceNetworkSettingsUpdate (s : Modem) (phone : Phone) (modes : NetworkModes) :
    Outcome Modem Modem :=
  if s.hasContext then
    if phone.networkId = -1 then
      Modem.forceMode getRafFromNetworkType { s with isWifiConnected := false } phone
        modes.preferredNetworkMode
    else
      Modem.forceMode getRafFromNetworkType { s with isWifiConnected := true } phone
        modes.preferredNetworkModeWifi
  else .error (.nullPointer, s)

/-- After the callback is registered, `onStartup` goes on as `forceNetworkSettingsUpdate` does. -/
def Modem.onStartup (s : Modem) (phone : Phone) (modes : NetworkModes) : Outcome Modem Modem :=
  Modem.forceNetworkSettingsUpdate getRafFromNetworkType
    { s with hasContext := true, registered := true } phone modes

def Modem.onClose (s : Modem) (phone : Phone) (modes : NetworkModes) : Outcome Modem Modem :=
  if s.hasContext then do
    let s ← Modem.forceMode getRafFromNetworkType s phone modes.preferredNetworkMode
    .ok { s with registered := false }
  else .ok s

/-! ## What the functions do to the registration -/

variable {s s' : Modem} {phone : Phone} {modes : NetworkModes}

/-- Forcing a mode changes nothing but what is requested. -/
theorem Modem.forceMode_frame {value : Option String}
    (h : s.forceMode getRafFromNetworkType phone value = .ok s') :
    ∃ requested, s' = { s with requested := requested } := by
  obtain ⟨mode, -, h⟩ := bind_eq_ok.mp h
  dsimp only at h
  split at h
  · cases h
    exact ⟨s.requested, rfl⟩
  · split at h
    · split at h
      · cases h
        exact ⟨_, rfl⟩
      · split at h <;> cases h <;> exact ⟨_, rfl⟩
    · cases h
      exact ⟨_, rfl⟩

theorem Modem.forceNetworkSettingsUpdate_frame
    (h : s.forceNetworkSettingsUpdate getRafFromNetworkType phone modes = .ok s') :
    ∃ wifi requested, s' = { s with isWifiConnected := wifi, requested := requested } := by
  unfold Modem.forceNetworkSettingsUpdate at h
  split at h
  · split at h
    · obtain ⟨requested, rfl⟩ := Modem.forceMode_frame getRafFromNetworkType h
      exact ⟨false, requested, rfl⟩
    · obtain ⟨requested, rfl⟩ := Modem.forceMode_frame getRafFromNetworkType h
      exact ⟨true, requested, rfl⟩
  · cases h

theorem Modem.onStartup_frame (h : s.onStartup getRafFromNetworkType phone modes = .ok s') :
    ∃ wifi requested, s' = ⟨true, true, wifi, requested⟩ :=
  Modem.forceNetworkSettingsUpdate_frame getRafFromNetworkType h

theorem Modem.onClose_frame (hctx : s.hasContext = true)
    (h : s.onClose getRafFromNetworkType phone modes = .ok s') :
    ∃ requested, s' = { s with registered := false, requested := requested } := by
  unfold Modem.onClose at h
  rw [if_pos hctx] at h
  obtain ⟨s₁, hforce, h⟩ := bind_eq_ok.mp h
  obtain ⟨requested, rfl⟩ := Modem.forceMode_frame getRafFromNetworkType hforce
  cases h
  exact ⟨requested, rfl⟩

/-! ## When they return -/

/-- Both texts are numbers. -/
structure NetworkModes.Numeric (modes : NetworkModes) : Prop where
  preferredNetworkMode : ∃ mode, valueOf (modes.preferredNetworkMode.getD "0") = .ok mode
  preferredNetworkModeWifi : ∃ mode, valueOf (modes.preferredNetworkModeWifi.getD "0") = .ok mode

/-- With a default data subscription the mode is requested, of one modem or of both, and nothing
else changes. -/
theorem Modem.forceMode_requests (s : Modem) {value : Option String} {mode : Int}
    (hvalid : phone.defaultSubId ≠ invalidSubscriptionId)
    (hmode : valueOf (value.getD "0") = .ok mode) :
    ∃ requested, s.forceMode getRafFromNetworkType phone value =
        .ok { s with requested := requested } ∧
      requested.getLast?.map Request.bitmask = some (getRafFromNetworkType mode) := by
  have hlast (m : Modem) (subId bitmask : Int) :
      (m.setPreferredNetworkTypeBitmask subId bitmask).requested.getLast?.map Request.bitmask =
        some bitmask := by
    simp [Modem.setPreferredNetworkTypeBitmask]
  simp only [Modem.forceMode, hmode, leaving_ok, ok_bind, if_neg hvalid]
  split_ifs with hmodems hfirst hsecond
  · exact ⟨_, rfl, hlast _ _ _⟩
  · exact ⟨_, rfl, hlast _ _ _⟩
  · exact ⟨_, rfl, hlast _ _ _⟩
  · exact ⟨_, rfl, hlast _ _ _⟩

theorem Modem.forceMode_returns (s : Modem) (phone : Phone) {value : Option String}
    (h : ∃ mode, valueOf (value.getD "0") = .ok mode) :
    ∃ s', s.forceMode getRafFromNetworkType phone value = .ok s' := by
  obtain ⟨mode, hmode⟩ := h
  unfold Modem.forceMode
  rw [hmode, leaving_ok, ok_bind]
  dsimp only
  split
  · exact ⟨s, rfl⟩
  · split
    · split
      · exact ⟨_, rfl⟩
      · split <;> exact ⟨_, rfl⟩
    · exact ⟨_, rfl⟩

theorem Modem.forceNetworkSettingsUpdate_returns (phone : Phone) (h : modes.Numeric)
    (hctx : s.hasContext = true) :
    ∃ s', s.forceNetworkSettingsUpdate getRafFromNetworkType phone modes = .ok s' := by
  unfold Modem.forceNetworkSettingsUpdate
  rw [if_pos hctx]
  split
  · exact Modem.forceMode_returns getRafFromNetworkType _ phone h.preferredNetworkMode
  · exact Modem.forceMode_returns getRafFromNetworkType _ phone h.preferredNetworkModeWifi

theorem Modem.onStartup_returns (s : Modem) (phone : Phone) (h : modes.Numeric) :
    ∃ s', s.onStartup getRafFromNetworkType phone modes = .ok s' :=
  Modem.forceNetworkSettingsUpdate_returns getRafFromNetworkType
    (s := { s with hasContext := true, registered := true }) phone h rfl

theorem Modem.onClose_returns (s : Modem) (phone : Phone) (h : modes.Numeric) :
    ∃ s', s.onClose getRafFromNetworkType phone modes = .ok s' := by
  unfold Modem.onClose
  split
  · obtain ⟨s₁, hforce⟩ := Modem.forceMode_returns getRafFromNetworkType s phone
      h.preferredNetworkMode
    rw [hforce, ok_bind]
    exact ⟨_, rfl⟩
  · exact ⟨s, rfl⟩

end Modem

end VendorRs.ConnectivityManager
