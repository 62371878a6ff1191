import VendorRs.Lib.Runs
import VendorRs.Bluetooth.Basic

/-!
# When the Bluetooth icon is shown

The icon should be there exactly while a device is connected. When a device connects the icon is put
there only if the list of addresses is empty, on the understanding that it is there already
otherwise; but a battery report can fill the list before any device connects. `visible_iff` says
that nothing else goes wrong, short of two billion connections.
-/

namespace VendorRs.Bluetooth

open Java Runs

/-- The icon is there exactly if a device is connected. -/
def Shows (s : State) : Prop :=
  0 ≤ s.bluetoothDeviceConnected ∧ (s.slot.shown.isSome = true ↔ 0 < s.bluetoothDeviceConnected)

def StaysShown (s : State) (e : Event) : Prop := ∀ s', step s e = .ok s' → Shows s'

/-- The first device to connect finds no address in the list, and the count does not overflow. -/
def FindsNoAddress (s : State) : Event → Prop
  | .aclConnected _ =>
      (s.bluetoothDeviceConnected = 0 → s.mBluetoothBatteryConnectedAddress = []) ∧
        s.bluetoothDeviceConnected ≠ 2 ^ 31 - 1
  | _ => True

instance (s : State) : Decidable (Shows s) := inferInstanceAs (Decidable (_ ∧ _))

instance (s : State) (e : Event) : Decidable (StaysShown s e) :=
  decidableForallOk (step s e) Shows

instance (s : State) : ∀ e, Decidable (FindsNoAddress s e)
  | .aclConnected _ => inferInstanceAs (Decidable (_ ∧ _))
  | .stateChanged _ | .aclDisconnected _ | .batteryLevelChanged _ _ =>
      inferInstanceAs (Decidable True)

structure Inv (s : State) : Prop where
  shows_icon : Shows s
  /-- The count is an `int`. -/
  count_lt : s.bluetoothDeviceConnected < 2 ^ 31
  /-- A report can only be shown while a device is connected. -/
  not_off : s.isBluetoothOff = false → 0 < s.bluetoothDeviceConnected

variable {s s' : State} {e : Event} {address : String}

theorem inv_start (iconBlacklist : Option String) : Inv (.start iconBlacklist) where
  shows_icon := by
    show 0 ≤ (0 : Int) ∧ ((none : Option IconId).isSome = true ↔ 0 < (0 : Int))
    decide
  count_lt := by
    show (0 : Int) < 2 ^ 31
    decide
  not_off := nofun

theorem inv_allDisconnected : Inv (allDisconnected s) where
  shows_icon := by
    show 0 ≤ (0 : Int) ∧ ((none : Option IconId).isSome = true ↔ 0 < (0 : Int))
    decide
  count_lt := by
    show (0 : Int) < 2 ^ 31
    decide
  not_off := nofun

/-! ## Broadcasts -/

/-- A device disconnects: nothing can go wrong. -/
theorem Inv.aclDisconnected (h : Inv s) : Inv (onAclDisconnected s address) := by
  have hcount := h.shows_icon.1
  have hlt := h.count_lt
  have hsub : toInt (s.bluetoothDeviceConnected - 1) = s.bluetoothDeviceConnected - 1 :=
    toInt_of_lt (by omega) (by omega)
  unfold onAclDisconnected
  dsimp only
  rw [hsub]
  split
  · exact inv_allDisconnected
  · next hpos =>
      have hpos : 0 < s.bluetoothDeviceConnected - 1 := by omega
      have hlt : s.bluetoothDeviceConnected - 1 < 2 ^ 31 := by omega
      have hshown : s.slot.shown.isSome = true := h.shows_icon.2.mpr (by omega)
      split
      · exact ⟨⟨hpos.le, iff_of_true hshown hpos⟩, hlt, fun _ => hpos⟩
      · exact ⟨⟨hpos.le, iff_of_true rfl hpos⟩, hlt, nofun⟩

/-- A device connects: the icon is there afterwards if it was before, or if the list is empty. -/
theorem Inv.shows_aclConnected_iff (h : Inv s) :
    Shows (onAclConnected s) ↔ FindsNoAddress s (.aclConnected address) := by
  obtain ⟨hcount, hshown⟩ := h.shows_icon
  have hlt := h.count_lt
  unfold Shows FindsNoAddress
  rw [onAclConnected_count, onAclConnected_slot]
  by_cases hmax : s.bluetoothDeviceConnected = 2 ^ 31 - 1
  · -- the count would become negative
    refine iff_of_false ?_ fun hfinds => hfinds.2 hmax
    rw [hmax]
    rintro ⟨hnonneg, -⟩
    exact absurd hnonneg (by decide)
  · have hadd : toInt (s.bluetoothDeviceConnected + 1) = s.bluetoothDeviceConnected + 1 :=
      toInt_of_lt (by omega) (by omega)
    have hpos : 0 < s.bluetoothDeviceConnected + 1 := by omega
    rw [hadd]
    split
    · next hempty => exact iff_of_true ⟨hpos.le, iff_of_true rfl hpos⟩ ⟨fun _ => hempty, hmax⟩
    · next hne =>
        constructor
        · rintro ⟨-, hiff⟩
          have hold := hshown.mp (hiff.mpr hpos)
          exact ⟨fun hzero => by omega, hmax⟩
        · rintro ⟨hempty, -⟩
          have hold : s.bluetoothDeviceConnected ≠ 0 := fun hzero => hne (hempty hzero)
          exact ⟨hpos.le, iff_of_true (hshown.mpr (by omega)) hpos⟩

theorem Inv.aclConnected (h : Inv s) (hfinds : FindsNoAddress s (.aclConnected address)) :
    Inv (onAclConnected s) where
  shows_icon := h.shows_aclConnected_iff.mpr hfinds
  count_lt := by
    rw [onAclConnected_count]
    exact toInt_lt _
  not_off := by
    intro _
    have hcount := h.shows_icon.1
    have hlt := h.count_lt
    have hmax := hfinds.2
    rw [onAclConnected_count, toInt_of_lt (by omega) (by omega)]
    omega

/-- A report is shown while a device is connected only. -/
theorem Inv.batteryLevelChanged (h : Inv s) {batteryLevel : Int} :
    Inv (onBatteryLevelChanged s address batteryLevel) where
  shows_icon := by
    unfold Shows
    rw [onBatteryLevelChanged_count, onBatteryLevelChanged_slot]
    split
    · exact h.shows_icon
    · next hoff =>
        have hpos := h.not_off (by simpa using hoff)
        exact ⟨hpos.le, iff_of_true rfl hpos⟩
  count_lt := by
    rw [onBatteryLevelChanged_count]
    exact h.count_lt
  not_off := by
    rw [onBatteryLevelChanged_count, onBatteryLevelChanged_isBluetoothOff]
    exact h.not_off

theorem Inv.stateChanged (h : Inv s) {state : Int} : Inv (onStateChanged s state) := by
  unfold onStateChanged
  split
  · exact { h with }
  · split
    · exact inv_allDisconnected
    · exact h

/-! ## Whole runs -/

theorem Inv.step (h : Inv s) (hfinds : FindsNoAddress s e) (hok : step s e = .ok s') : Inv s' := by
  cases hok
  cases e with
  | stateChanged state => exact h.stateChanged
  | aclConnected address => exact h.aclConnected hfinds
  | aclDisconnected address => exact h.aclDisconnected
  | batteryLevelChanged address batteryLevel => exact h.batteryLevelChanged

theorem Inv.staysShown_iff (h : Inv s) : StaysShown s e ↔ FindsNoAddress s e := by
  by_cases hconnected : ∃ address, e = .aclConnected address
  · obtain ⟨address, rfl⟩ := hconnected
    rw [← h.shows_aclConnected_iff]
    constructor
    · intro hstays
      exact hstays _ rfl
    · rintro hshows _ ⟨⟩
      exact hshows
  · have hfinds : FindsNoAddress s e := by
      cases e with
      | aclConnected address => exact absurd ⟨address, rfl⟩ hconnected
      | _ => trivial
    refine iff_of_true ?_ hfinds
    intro s' hok
    exact (h.step hfinds hok).shows_icon

/-- **The count is never negative and the icon is there exactly while it is positive, if and only if
no device that connects first finds an address in the list, and the count does not overflow.** -/
theorem visible_iff (iconBlacklist : Option String) (evs : List Event) :
    EveryStep step StaysShown (.start iconBlacklist) evs ↔
      EveryStep step FindsNoAddress (.start iconBlacklist) evs := by
  apply everyStep_iff (P := Inv) (B := fun _ _ => True)
  · intro s e s' h _ hfinds hok
    exact h.step hfinds hok
  · intro s e h _
    exact h.staysShown_iff
  · exact inv_start _
  · exact everyStep_true

/-- A device reports its battery before it is said to be connected. -/
theorem icon_missing_after_early_report :
    ¬ EveryStep step StaysShown (.start none)
      [.stateChanged stateOn, .batteryLevelChanged "00:11:22:33:44:55" 80,
        .aclConnected "00:11:22:33:44:55"] := by
  decide +kernel

end VendorRs.Bluetooth
