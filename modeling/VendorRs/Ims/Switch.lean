import VendorRs.Ims.Managers

/-!
# Switching the IMS icons off

The managers run if one of the preferences `showVolteIcon` and `showVowifiIcon` is on. The handler
of a preference change registers the listener for subscription changes or removes it, and calls
`manageImsIcons` accordingly; the listener calls `manageImsIcons(true)` and asks nothing. A
notification that waits in the queue of the main looper when the listener is removed is delivered
all the same, and brings the managers back. `off_iff` says that nothing else does.
-/

namespace VendorRs.Ims

open Java Runs

structure Switch where
  /-- The preference `showVolteIcon`, if it is set. -/
  showVolteIcon : Option Bool
  /-- The preference `showVowifiIcon`, if it is set. -/
  showVowifiIcon : Option Bool
  /-- The preference changes that `mPreferenceListener` has not been told of yet. -/
  unhandled : Nat
  /-- The notifications of subscription changes that wait to be delivered. -/
  queued : Nat
  mSubMgrRunning : Bool
  /-- `mSubscriptionsChangedListener` is registered. -/
  registered : Bool
  managers : Managers

def Switch.wanted (s : Switch) : Bool :=
  s.showVolteIcon.getD false || s.showVowifiIcon.getD false

/-- The part of `onServiceConnected` about the IMS icons, with the preferences it finds. -/
def Switch.connected (showVolteIcon showVowifiIcon : Option Bool) : Switch where
  showVolteIcon := showVolteIcon
  showVowifiIcon := showVowifiIcon
  unhandled := 0
  queued := 0
  mSubMgrRunning := showVolteIcon.getD false || showVowifiIcon.getD false
  registered := showVolteIcon.getD false || showVowifiIcon.getD false
  managers := .empty

/-- `manageImsIcons` within the service. -/
def Switch.manage (s : Switch) (enabled : Bool) (subscriptionList : Option (List Int)) :
    Outcome Switch Switch :=
  match manageImsIcons s.managers enabled subscriptionList with
  | .ok managers => .ok { s with managers := managers }
  | .error (x, managers) => .error (x, { s with managers := managers })

/-- The cases `showVolteIcon` and `showVowifiIcon` of the preference listener. -/
def onPreferenceChanged (s : Switch) (subscriptionList : Option (List Int)) :
    Outcome Switch Switch :=
  if s.wanted then
    let s := if s.mSubMgrRunning then s else { s with registered := true, mSubMgrRunning := true }
    s.manage true subscriptionList
  else
    let s := if s.mSubMgrRunning then { s with registered := false, mSubMgrRunning := false } else s
    s.manage false subscriptionList

/-- `mSubscriptionsChangedListener`. -/
def onSubscriptionsChanged (s : Switch) (subscriptionList : Option (List Int)) :
    Outcome Switch Switch :=
  s.manage true subscriptionList

inductive SwitchEvent where
  | setVolte (value : Bool)
  | setVowifi (value : Bool)
  /-- `mPreferenceListener` is told of a change. -/
  | handle (subscriptionList : Option (List Int))
  /-- The subscriptions changed. -/
  | notify
  /-- A notification is delivered. -/
  | deliver (subscriptionList : Option (List Int))
  deriving DecidableEq, Repr

/-- One event. The subscriptions are those that are active when the service asks. -/
def Switch.step (s : Switch) : SwitchEvent → Outcome Switch Switch
  | .setVolte value =>
      if some value = s.showVolteIcon then .ok s
      else .ok { s with showVolteIcon := some value, unhandled := s.unhandled + 1 }
  | .setVowifi value =>
      if some value = s.showVowifiIcon then .ok s
      else .ok { s with showVowifiIcon := some value, unhandled := s.unhandled + 1 }
  | .handle subscriptionList =>
      match s.unhandled with
      | 0 => .ok s
      | n + 1 => onPreferenceChanged { s with unhandled := n } subscriptionList
  | .notify => .ok (if s.registered then { s with queued := s.queued + 1 } else s)
  | .deliver subscriptionList =>
      match s.queued with
      | 0 => .ok s
      | n + 1 => onSubscriptionsChanged { s with queued := n } subscriptionList

/-! ## What should hold, and when it does -/

/-- Both preferences are off, and the service knows. -/
def Switch.Off (s : Switch) : Prop := s.wanted = false ∧ s.unhandled = 0

def Switch.Idle (s : Switch) : Prop :=
  s.mSubMgrRunning = false ∧ s.managers.mImsMmTelManagerExtra.live = ∅ ∧ s.managers.mSubList = []

/-- The step leads to a state in which, if the icons are off, no manager is running. -/
def StaysOff (s : Switch) (e : SwitchEvent) : Prop := ∀ s', s.step e = .ok s' → s'.Off → s'.Idle

/-- No notification finds an active subscription when it is delivered after the icons went off. -/
def NoneDeliveredLate (s : Switch) : SwitchEvent → Prop
  | .deliver subscriptionList => 0 < s.queued → s.Off → ∀ ids ∈ subscriptionList, ids = []
  | _ => True

instance (s : Switch) : Decidable s.Off := inferInstanceAs (Decidable (_ ∧ _))

instance (s : Switch) : Decidable s.Idle := inferInstanceAs (Decidable (_ ∧ _ ∧ _))

instance (s : Switch) (e : SwitchEvent) : Decidable (StaysOff s e) :=
  decidableForallOk (s.step e) fun s' => s'.Off → s'.Idle

instance (s : Switch) : ∀ e, Decidable (NoneDeliveredLate s e)
  | .deliver _ => inferInstanceAs (Decidable (_ → _ → _))
  | .setVolte _ | .setVowifi _ | .handle _ | .notify => inferInstanceAs (Decidable True)

structure Switch.Inv (s : Switch) : Prop where
  managers : s.managers.Inv
  running : s.unhandled = 0 → s.mSubMgrRunning = s.wanted
  idle : s.Off → s.Idle

variable {s s' : Switch} {e : SwitchEvent}

theorem Switch.inv_connected (showVolteIcon showVowifiIcon : Option Bool) :
    Switch.Inv (.connected showVolteIcon showVowifiIcon) where
  managers := Managers.inv_empty
  running := fun _ => rfl
  idle := by
    rintro ⟨hoff, -⟩
    exact ⟨hoff, rfl, rfl⟩

/-- `manageImsIcons(true)` returns with the managers of the active subscriptions. -/
theorem Switch.manage_on (h : s.managers.Inv) (ids : List Int) :
    ∃ managers, s.manage true (some ids) = .ok { s with managers := managers } ∧ managers.Inv ∧
      managers.mImsMmTelManagerExtra.live.keys = ids.toFinset := by
  obtain ⟨managers, hstep, hreconciled⟩ := h.reconciles_on ids
  refine ⟨managers, ?_, hreconciled.inv, hreconciled.keys_eq⟩
  change manageImsIcons s.managers true (some ids) = .ok managers at hstep
  rw [Switch.manage, hstep]

/-- `manageImsIcons(false)` returns without managers, whatever the subscriptions are. -/
theorem Switch.manage_off (h : s.managers.Inv) (subscriptionList : Option (List Int)) :
    ∃ managers, s.manage false subscriptionList = .ok { s with managers := managers } ∧
      managers.Inv ∧ managers.mImsMmTelManagerExtra.live.keys = ∅ := by
  obtain ⟨managers, hstep, hreconciled⟩ := h.reconciles_on []
  refine ⟨managers, ?_, hreconciled.inv, hreconciled.keys_eq⟩
  rw [← step_off] at hstep
  change manageImsIcons s.managers false none = .ok managers at hstep
  have hstep : manageImsIcons s.managers false subscriptionList = .ok managers := hstep
  rw [Switch.manage, hstep]

theorem live_eq_empty {managers : Managers} (hkeys : managers.mImsMmTelManagerExtra.live.keys = ∅) :
    managers.mImsMmTelManagerExtra.live = ∅ := by
  apply Finmap.ext_lookup
  intro id
  rw [Finmap.lookup_empty, Finmap.lookup_eq_none, ← Finmap.mem_keys, hkeys]
  exact Finset.notMem_empty id

theorem Managers.Inv.mSubList_eq_nil {managers : Managers} (h : managers.Inv)
    (hlive : managers.mImsMmTelManagerExtra.live = ∅) : managers.mSubList = [] := by
  apply List.eq_nil_iff_forall_not_mem.mpr
  intro id hid
  have hmem := (h.mem_iff id).mp hid
  rw [hlive] at hmem
  exact Finmap.notMem_empty hmem

/-! ## Steps -/

/-- With a call of `manageImsIcons` that goes by the preferences, everything is as they say. -/
theorem Switch.inv_manage {enabled : Bool} {subscriptionList : Option (List Int)}
    (hmanagers : s.managers.Inv) (hwanted : s.wanted = enabled)
    (hrunning : s.mSubMgrRunning = enabled) (hok : s.manage enabled subscriptionList = .ok s') :
    s'.Inv := by
  cases enabled with
  | true =>
      cases subscriptionList with
      | none => cases hok
      | some ids =>
          obtain ⟨managers, hmanage, hinv, -⟩ := Switch.manage_on hmanagers ids
          cases hmanage.symm.trans hok
          refine ⟨hinv, fun _ => hrunning.trans hwanted.symm, ?_⟩
          rintro ⟨hoff, -⟩
          cases hwanted.symm.trans hoff
  | false =>
      obtain ⟨managers, hmanage, hinv, hkeys⟩ := Switch.manage_off hmanagers subscriptionList
      cases hmanage.symm.trans hok
      refine ⟨hinv, fun _ => hrunning.trans hwanted.symm, ?_⟩
      intro _
      exact ⟨hrunning, live_eq_empty hkeys, hinv.mSubList_eq_nil (live_eq_empty hkeys)⟩

theorem Switch.inv_onPreferenceChanged {subscriptionList : Option (List Int)}
    (hmanagers : s.managers.Inv) (hok : onPreferenceChanged s subscriptionList = .ok s') :
    s'.Inv := by
  unfold onPreferenceChanged at hok
  split at hok
  · next hwanted =>
      split at hok
      · next hrunning => exact Switch.inv_manage hmanagers hwanted hrunning hok
      · exact Switch.inv_manage (s := { s with registered := true, mSubMgrRunning := true })
          hmanagers hwanted rfl hok
  · next hwanted =>
      have hwanted : s.wanted = false := by simpa using hwanted
      split at hok
      · exact Switch.inv_manage (s := { s with registered := false, mSubMgrRunning := false })
          hmanagers hwanted rfl hok
      · next hrunning =>
          exact Switch.inv_manage hmanagers hwanted (by simpa using hrunning) hok

/-- A change of a preference is not handled yet. -/
theorem Switch.inv_changed {showVolteIcon showVowifiIcon : Option Bool}
    (hmanagers : s.managers.Inv) :
    Switch.Inv { s with
      showVolteIcon := showVolteIcon
      showVowifiIcon := showVowifiIcon
      unhandled := s.unhandled + 1 } where
  managers := hmanagers
  running := nofun
  idle := fun hoff => nomatch hoff.2

/-- A notification is delivered: with the icons off, a manager is there after it exactly if a
subscription is. -/
theorem Switch.Inv.delivered (h : s.Inv) (n : Nat) (ids : List Int) :
    ∃ managers, onSubscriptionsChanged { s with queued := n } (some ids) =
        .ok { s with queued := n, managers := managers } ∧ managers.Inv ∧
      (s.Off → (Switch.Idle { s with queued := n, managers := managers } ↔ ids = [])) := by
  obtain ⟨managers, hmanage, hinv, hkeys⟩ :=
    Switch.manage_on (s := { s with queued := n }) h.managers ids
  refine ⟨managers, hmanage, hinv, ?_⟩
  intro hoff
  obtain ⟨hrunning, -, -⟩ := h.idle hoff
  constructor
  · rintro ⟨-, hlive, -⟩
    change managers.mImsMmTelManagerExtra.live = ∅ at hlive
    rw [hlive, Finmap.keys_empty] at hkeys
    exact (List.toFinset_eq_empty_iff ids).mp hkeys.symm
  · rintro rfl
    exact ⟨hrunning, live_eq_empty hkeys, hinv.mSubList_eq_nil (live_eq_empty hkeys)⟩

theorem Switch.Inv.step (h : s.Inv) (hlate : NoneDeliveredLate s e) (hok : s.step e = .ok s') :
    s'.Inv := by
  cases e with
  | setVolte value =>
      simp only [Switch.step] at hok
      split at hok <;> cases hok
      · exact h
      · exact Switch.inv_changed h.managers
  | setVowifi value =>
      simp only [Switch.step] at hok
      split at hok <;> cases hok
      · exact h
      · exact Switch.inv_changed h.managers
  | handle subscriptionList =>
      simp only [Switch.step] at hok
      split at hok
      · cases hok; exact h
      · next n hunhandled =>
          exact Switch.inv_onPreferenceChanged (s := { s with unhandled := n }) h.managers hok
  | notify =>
      simp only [Switch.step] at hok
      cases hok
      split
      · exact { h with }
      · exact h
  | deliver subscriptionList =>
      simp only [Switch.step] at hok
      split at hok
      · cases hok; exact h
      · next n hqueued =>
          cases subscriptionList with
          | none => cases hok
          | some ids =>
              obtain ⟨managers, hdelivered, hinv, hidle⟩ := h.delivered n ids
              cases hdelivered.symm.trans hok
              refine ⟨hinv, h.running, ?_⟩
              intro hoff
              exact (hidle hoff).mpr (hlate (by omega) hoff ids rfl)

theorem Switch.Inv.staysOff_iff (h : s.Inv) : StaysOff s e ↔ NoneDeliveredLate s e := by
  constructor
  · intro hstays
    cases e with
    | deliver subscriptionList =>
        intro hqueued hoff ids hids
        cases hids
        obtain ⟨n, hn⟩ := Nat.exists_eq_add_of_lt hqueued
        obtain ⟨managers, hdelivered, -, hidle⟩ := h.delivered n ids
        apply (hidle hoff).mp
        refine hstays _ ?_ hoff
        simp only [Switch.step, hn, Nat.zero_add]
        exact hdelivered
    | _ => trivial
  · intro hlate s' hok hoff
    exact (h.step hlate hok).idle hoff

/-- **With both preferences off and the change handled, no listener is registered and no manager is
there, if and only if no notification delivered then finds an active subscription.** -/
theorem off_iff (showVolteIcon showVowifiIcon : Option Bool) (evs : List SwitchEvent) :
    ((Switch.connected showVolteIcon showVowifiIcon).Off →
      (Switch.connected showVolteIcon showVowifiIcon).Idle) ∧
    (EveryStep Switch.step StaysOff (.connected showVolteIcon showVowifiIcon) evs ↔
      EveryStep Switch.step NoneDeliveredLate (.connected showVolteIcon showVowifiIcon) evs) := by
  refine ⟨(Switch.inv_connected _ _).idle, ?_⟩
  apply everyStep_iff (P := Switch.Inv) (B := fun _ _ => True)
  · intro s e s' h _ hlate hok
    exact h.step hlate hok
  · intro s e h _
    exact h.staysOff_iff
  · exact Switch.inv_connected _ _
  · exact everyStep_true

/-- The subscriptions change, the icon is switched off, and only then the notification is
delivered. -/
theorem manager_back_after_off :
    ¬ EveryStep Switch.step StaysOff (.connected (some true) none)
      [.notify, .setVolte false, .handle (some [1]), .deliver (some [1])] := by
  decide +kernel

end VendorRs.Ims
