import Mathlib.Data.Finset.Basic
import Mathlib.Logic.Function.Basic
import VendorRs.Lib.Runs
import VendorRs.Bluetooth.Basic

/-!
# What the Bluetooth icon shows

A battery level in the icon should be the latest one of a device that is still connected, and a
report should be shown when it comes. The service keeps neither the levels nor the address the level
shown came from. `Reports` puts both beside it, and `level_fresh_iff` finds two gaps: a device that
disconnects may leave its level in the icon, as long as the list of addresses is not empty without
it; and after a device has disconnected that was the last one with a battery, `isBluetoothOff` keeps
the reports of the others from being shown.
-/

namespace VendorRs.Bluetooth

open Java Runs

/-- The service, with the devices that are connected and the latest level each of them reported. -/
structure Reports where
  service : State
  connected : Finset String
  latest : String → Option Int

def Reports.start (iconBlacklist : Option String) : Reports :=
  ⟨.start iconBlacklist, ∅, fun _ => none⟩

def Reports.step (r : Reports) (e : Event) : Outcome State Reports := do
  let service ← Bluetooth.step r.service e
  match e with
  | .stateChanged _ => return { r with service := service }
  | .aclConnected address =>
      return { r with service := service, connected := insert address r.connected }
  | .aclDisconnected address =>
      return {
        service := service
        connected := r.connected.erase address
        latest := Function.update r.latest address none }
  | .batteryLevelChanged address batteryLevel =>
      return { r with
        service := service, latest := Function.update r.latest address (some batteryLevel) }

/-- Reports come from devices that are connected. -/
def FromConnected (r : Reports) : Event → Prop
  | .batteryLevelChanged address _ => address ∈ r.connected
  | _ => True

/-- One of the devices `connected` reported last what the icon shows. -/
def Latest (latest : String → Option Int) (connected : Finset String) (icon : IconId) : Prop :=
  ∃ address ∈ connected, (latest address).map iconId = some icon

/-- A battery level that is shown is the latest one of a device that is connected. -/
def Reports.Fresh (r : Reports) : Prop :=
  ∀ n, r.service.slot.shown = some (.battery n) → Latest r.latest r.connected (.battery n)

/-- A level of at least 10 is shown when it has been reported. -/
def Reports.ShowsReport (r : Reports) : Event → Prop
  | .batteryLevelChanged _ batteryLevel =>
      10 ≤ batteryLevel → r.service.slot.shown = some (iconId batteryLevel)
  | _ => True

def StaysFresh (r : Reports) (e : Event) : Prop :=
  ∀ r', r.step e = .ok r' → r'.Fresh ∧ r'.ShowsReport e

/-- A device that disconnects and leaves others behind, one of them in the list of addresses, leaves
a level in the icon only if another one reported the same last; and no level of at least 10 is
reported while `isBluetoothOff` is set. -/
def LevelMoves (r : Reports) : Event → Prop
  | .aclDisconnected address =>
      0 < toInt (r.service.bluetoothDeviceConnected - 1) →
      r.service.mBluetoothBatteryConnectedAddress.erase address ≠ [] →
      ∀ n, r.service.slot.shown = some (.battery n) →
        Latest r.latest (r.connected.erase address) (.battery n)
  | .batteryLevelChanged _ batteryLevel => 10 ≤ batteryLevel → r.service.isBluetoothOff = false
  | _ => True

instance (latest : String → Option Int) (connected : Finset String) (icon : IconId) :
    Decidable (Latest latest connected icon) :=
  inferInstanceAs (Decidable (∃ address ∈ connected, _))

instance (r : Reports) : Decidable r.Fresh := inferInstanceAs (Decidable (∀ _, _ → _))

instance (r : Reports) : ∀ e, Decidable (r.ShowsReport e)
  | .batteryLevelChanged _ _ => inferInstanceAs (Decidable (_ → _))
  | .stateChanged _ | .aclConnected _ | .aclDisconnected _ => inferInstanceAs (Decidable True)

instance (r : Reports) (e : Event) : Decidable (StaysFresh r e) :=
  decidableForallOk (r.step e) fun r' => r'.Fresh ∧ r'.ShowsReport e

instance (r : Reports) : ∀ e, Decidable (FromConnected r e)
  | .batteryLevelChanged _ _ => inferInstanceAs (Decidable (_ ∈ _))
  | .stateChanged _ | .aclConnected _ | .aclDisconnected _ => inferInstanceAs (Decidable True)

instance (r : Reports) : ∀ e, Decidable (LevelMoves r e)
  | .aclDisconnected _ => inferInstanceAs (Decidable (_ → _ → ∀ _, _ → _))
  | .batteryLevelChanged _ _ => inferInstanceAs (Decidable (_ → _))
  | .stateChanged _ | .aclConnected _ => inferInstanceAs (Decidable True)

structure Reports.Inv (r : Reports) : Prop where
  fresh : r.Fresh
  /-- While reports are not shown, no level is. -/
  off : r.service.isBluetoothOff = true → ∀ n, r.service.slot.shown ≠ some (.battery n)

variable {r r' : Reports} {e : Event} {address : String} {batteryLevel : Int} {n : Fin 10}

theorem exists_battery_ite {c : Prop} [Decidable c] {icon : IconId} (m : Fin 10)
    (h : ¬ c → ∃ n, icon = .battery n) : ∃ n, (if c then .battery m else icon) = .battery n := by
  split
  · exact ⟨m, rfl⟩
  · next hc => exact h hc

/-- A level of at least 10 has an icon of its own. -/
theorem iconId_battery (h : 10 ≤ batteryLevel) : ∃ n, iconId batteryLevel = .battery n := by
  unfold iconId batteryLevelUnknown batteryLevelBluetoothOff
  rw [if_neg (by omega)]
  -- one level of the scale after the other
  repeat
    apply exists_battery_ite
    intro _
  contradiction

/-- What the others reported does not change when one device's report does. -/
theorem latest_update_erase {latest : String → Option Int} {connected : Finset String}
    {icon : IconId} {report : Option Int} :
    Latest (Function.update latest address report) (connected.erase address) icon ↔
      Latest latest (connected.erase address) icon := by
  refine exists_congr fun other => and_congr_right fun hother => ?_
  rw [Function.update_of_ne (Finset.ne_of_mem_erase hother)]

/-- A slot without a battery level in it. -/
theorem Reports.inv_of_no_level (hnone : ∀ n, r.service.slot.shown ≠ some (.battery n)) :
    r.Inv where
  fresh := by
    intro n hn
    exact absurd hn (hnone n)
  off := fun _ => hnone

/-! ## Broadcasts -/

theorem Reports.Inv.stateChanged (h : r.Inv) {state : Int} :
    Reports.Inv { r with service := onStateChanged r.service state } := by
  unfold onStateChanged
  split
  · exact { h with }
  · split
    · exact Reports.inv_of_no_level nofun
    · exact h

theorem Reports.Inv.aclConnected (h : r.Inv) :
    Reports.Inv { r with
      service := onAclConnected r.service, connected := insert address r.connected } where
  fresh := by
    intro n hn
    change (onAclConnected r.service).slot.shown = _ at hn
    rw [onAclConnected_slot] at hn
    split at hn
    · cases hn
    · obtain ⟨other, hother, hlevel⟩ := h.fresh n hn
      exact ⟨other, Finset.mem_insert_of_mem hother, hlevel⟩
  off := nofun

/-- A device disconnects: a level that stays in the icon is to be some other device's. -/
theorem Reports.fresh_aclDisconnected_iff :
    Reports.Fresh ⟨onAclDisconnected r.service address, r.connected.erase address,
        Function.update r.latest address none⟩ ↔ LevelMoves r (.aclDisconnected address) := by
  unfold onAclDisconnected LevelMoves
  dsimp only
  split
  · next hcount =>
      refine iff_of_true nofun ?_
      intro hpos
      omega
  · next hcount =>
      split
      · next hlist =>
          -- the icon stays as it was
          constructor
          · intro hfresh _ _ n hn
            exact latest_update_erase.mp (hfresh n hn)
          · intro hmoves n hn
            exact latest_update_erase.mpr (hmoves (by omega) hlist n hn)
      · next hlist =>
          refine iff_of_true nofun ?_
          intro _ hne
          exact absurd hne hlist

theorem Reports.inv_aclDisconnected (hmoves : LevelMoves r (.aclDisconnected address)) :
    Reports.Inv ⟨onAclDisconnected r.service address, r.connected.erase address,
      Function.update r.latest address none⟩ where
  fresh := Reports.fresh_aclDisconnected_iff.mpr hmoves
  off := by
    show (onAclDisconnected r.service address).isBluetoothOff = true →
      ∀ n, (onAclDisconnected r.service address).slot.shown ≠ some (.battery n)
    unfold onAclDisconnected
    dsimp only
    split
    · intro _
      nofun
    · split
      · nofun
      · intro _
        nofun

theorem Reports.Inv.batteryLevelChanged (h : r.Inv) (hconnected : address ∈ r.connected) :
    Reports.Inv { r with
      service := onBatteryLevelChanged r.service address batteryLevel
      latest := Function.update r.latest address (some batteryLevel) } := by
  by_cases hoff : r.service.isBluetoothOff = true
  · apply Reports.inv_of_no_level
    intro n
    show (onBatteryLevelChanged r.service address batteryLevel).slot.shown ≠ _
    rw [onBatteryLevelChanged_slot, if_pos hoff]
    exact h.off hoff n
  · constructor
    · intro n hn
      change (onBatteryLevelChanged r.service address batteryLevel).slot.shown = _ at hn
      rw [onBatteryLevelChanged_slot, if_neg hoff] at hn
      refine ⟨address, hconnected, ?_⟩
      show (Function.update r.latest address (some batteryLevel) address).map iconId = _
      rw [Function.update_self]
      exact hn
    · intro hoff'
      change (onBatteryLevelChanged r.service address batteryLevel).isBluetoothOff = true at hoff'
      rw [onBatteryLevelChanged_isBluetoothOff] at hoff'
      exact absurd hoff' hoff

/-- A level of at least 10 is shown exactly if reports are. -/
theorem Reports.Inv.showsReport_iff (h : r.Inv) (address : String) (batteryLevel : Int) :
    (10 ≤ batteryLevel → (onBatteryLevelChanged r.service address batteryLevel).slot.shown =
        some (iconId batteryLevel)) ↔
      (10 ≤ batteryLevel → r.service.isBluetoothOff = false) := by
  refine imp_congr_right fun hten => ?_
  rw [onBatteryLevelChanged_slot]
  by_cases hoff : r.service.isBluetoothOff = true
  · rw [if_pos hoff]
    obtain ⟨n, hn⟩ := iconId_battery hten
    rw [hn]
    exact iff_of_false (h.off hoff n) (by simp [hoff])
  · rw [if_neg hoff]
    exact iff_of_true rfl (by simpa using hoff)

/-! ## Whole runs -/

theorem Reports.Inv.step (h : r.Inv) (hfrom : FromConnected r e) (hmoves : LevelMoves r e)
    (hok : r.step e = .ok r') : r'.Inv := by
  cases e with
  | stateChanged state => cases hok; exact h.stateChanged
  | aclConnected address => cases hok; exact h.aclConnected
  | aclDisconnected address => cases hok; exact Reports.inv_aclDisconnected hmoves
  | batteryLevelChanged address batteryLevel => cases hok; exact h.batteryLevelChanged hfrom

theorem Reports.Inv.staysFresh_iff (h : r.Inv) (hfrom : FromConnected r e) :
    StaysFresh r e ↔ LevelMoves r e := by
  cases e with
  | stateChanged state =>
      refine iff_of_true ?_ trivial
      rintro _ ⟨⟩
      exact ⟨h.stateChanged.fresh, trivial⟩
  | aclConnected address =>
      refine iff_of_true ?_ trivial
      rintro _ ⟨⟩
      exact ⟨h.aclConnected.fresh, trivial⟩
  | aclDisconnected address =>
      rw [← Reports.fresh_aclDisconnected_iff]
      constructor
      · intro hstays
        exact (hstays _ rfl).1
      · rintro hfresh _ ⟨⟩
        exact ⟨hfresh, trivial⟩
  | batteryLevelChanged address batteryLevel =>
      refine Iff.trans ?_ (h.showsReport_iff address batteryLevel)
      constructor
      · intro hstays
        exact (hstays _ rfl).2
      · rintro hshows _ ⟨⟩
        exact ⟨(h.batteryLevelChanged hfrom).fresh, hshows⟩

/-- **With reports from connected devices only, a level in the icon is always the latest one of a
device still connected and a report is shown when it comes, if and only if no device leaves its
level behind when it disconnects, and nothing is reported while `isBluetoothOff` is set.** -/
theorem level_fresh_iff (iconBlacklist : Option String) (evs : List Event)
    (hfrom : EveryStep Reports.step FromConnected (.start iconBlacklist) evs) :
    EveryStep Reports.step StaysFresh (.start iconBlacklist) evs ↔
      EveryStep Reports.step LevelMoves (.start iconBlacklist) evs := by
  apply everyStep_iff (P := Reports.Inv) (B := FromConnected)
  · intro r e r' h hfrom hmoves hok
    exact h.step hfrom hmoves hok
  · intro r e h hfrom
    exact h.staysFresh_iff hfrom
  · exact Reports.inv_of_no_level nofun
  · exact hfrom

/-- Two devices report, and the one whose level is shown disconnects. -/
theorem level_left_behind :
    ¬ EveryStep Reports.step StaysFresh (.start none)
      [.aclConnected "A", .batteryLevelChanged "A" 80, .aclConnected "B",
        .batteryLevelChanged "B" 50, .aclDisconnected "B"] := by
  decide +kernel

/-- The one whose level is not shown disconnects. -/
theorem level_fresh_two_devices :
    EveryStep Reports.step StaysFresh (.start none)
      [.aclConnected "A", .batteryLevelChanged "A" 80, .aclConnected "B",
        .batteryLevelChanged "B" 50, .aclDisconnected "A", .batteryLevelChanged "B" 40] :=
  (level_fresh_iff none _ (by decide +kernel)).mpr (by decide +kernel)

end VendorRs.Bluetooth
