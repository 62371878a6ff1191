import VendorRs.Java.Lang
import VendorRs.Lib.Pool
import VendorRs.Lib.Runs

/-!
# One IMS manager for each active subscription

`MainService.manageImsIcons` brings the managers in line with the active subscriptions: it starts
one for each subscription that is new, and closes those whose subscription is gone. It keeps a list
of the subscriptions beside the map, compares with the list and changes both as it goes.

`managers_reconciled` is about any sequence of calls: after each the managers are those of the
subscriptions just given, nobody is restarted, and every manager ever created was started once and,
if it is gone, closed once.
-/

namespace VendorRs.Ims

open Java Runs

/-- The fields `mSubList` and `mImsMmTelManagerExtra`, this with what was done to its objects. -/
structure Managers where
  mSubList : List Int
  mImsMmTelManagerExtra : Pool Int

def Managers.empty : Managers := ⟨[], .empty⟩

/-! ## `manageImsIcons` -/

/-- The body of the loop that adds new subscriptions: `put`, `onStartup` and `add`. -/
def addSubscription (s : Managers) (mSubId : Int) : Managers :=
  if mSubId ∈ s.mSubList then s
  else
    { mSubList := s.mSubList ++ [mSubId]
      mImsMmTelManagerExtra := s.mImsMmTelManagerExtra.start mSubId }

/-- The removal of a subscription: `onClose` and both `remove`s, by value. -/
def removeSubscription (s : Managers) (mSubId : Int) : Outcome Managers Managers :=
  match s.mImsMmTelManagerExtra.live.lookup mSubId with
  | none => .error (.nullPointer, s)
  | some _ =>
      .ok {
        mSubList := s.mSubList.erase mSubId
        mImsMmTelManagerExtra := s.mImsMmTelManagerExtra.stop mSubId }

/-- `manageImsIcons(enabled)`, where `getActiveSubscriptionInfoList` returns subscriptions with the
ids `subscriptionList`, or `null`. -/
def manageImsIcons (s : Managers) (enabled : Bool) (subscriptionList : Option (List Int)) :
    Outcome Managers Managers :=
  if enabled then
    match subscriptionList with
    | none => .error (.nullPointer, s)
    | some mSubListTmp =>
        let s := mSubListTmp.foldl addSubscription s
        -- over a copy of the list, which the loop changes
        s.mSubList.foldlM
          (fun s mSubId => if mSubId ∈ mSubListTmp then .ok s else removeSubscription s mSubId) s
  else s.mSubList.foldlM removeSubscription s

/-- A call of `manageImsIcons`. -/
inductive Call where
  | on (subscriptionList : List Int)
  | off
  deriving DecidableEq, Repr

def Managers.step (s : Managers) : Call → Outcome Managers Managers
  | .on subscriptionList => manageImsIcons s true (some subscriptionList)
  | .off => manageImsIcons s false none

/-! ## What a call owes -/

/-- The subscriptions that are to have a manager after a call. -/
def Call.active : Call → Finset Int
  | .on subscriptionList => subscriptionList.toFinset
  | .off => ∅

/-- After a call, the managers are those of the subscriptions `active`. -/
structure Reconciled (s s' : Managers) (active : Finset Int) : Prop where
  nodup : s'.mSubList.Nodup
  list_eq : s'.mSubList.toFinset = s'.mImsMmTelManagerExtra.live.keys
  keys_eq : s'.mImsMmTelManagerExtra.live.keys = active
  /-- A manager that is still needed is the one that was there before. -/
  kept : ∀ id ∈ s.mImsMmTelManagerExtra.live, id ∈ active →
    s'.mImsMmTelManagerExtra.live.lookup id = s.mImsMmTelManagerExtra.live.lookup id
  /-- The call started the managers that are new, closed those that are gone, and no others. -/
  calls : ∃ new, s'.mImsMmTelManagerExtra.log = s.mImsMmTelManagerExtra.log ++ new ∧
    (∀ obj, .started obj ∈ new ↔ ∃ id, id ∉ s.mImsMmTelManagerExtra.live ∧
      s'.mImsMmTelManagerExtra.live.lookup id = some obj) ∧
    (∀ obj, .stopped obj ∈ new ↔ ∃ id, id ∉ active ∧
      s.mImsMmTelManagerExtra.live.lookup id = some obj)
  /-- All in all, every manager was started once, and closed once if it is gone. -/
  sound : s'.mImsMmTelManagerExtra.Sound

def Reconciles (s : Managers) (call : Call) : Prop :=
  ∃ s', s.step call = .ok s' ∧ Reconciled s s' call.active

/-- The list and the map agree. -/
structure Managers.Inv (s : Managers) : Prop where
  nodup : s.mSubList.Nodup
  mem_iff : ∀ id, id ∈ s.mSubList ↔ id ∈ s.mImsMmTelManagerExtra.live
  sound : s.mImsMmTelManagerExtra.Sound

theorem Managers.inv_empty : Managers.Inv .empty where
  nodup := List.nodup_nil
  mem_iff := fun _ => iff_of_false List.not_mem_nil Finmap.notMem_empty
  sound := Pool.sound_empty

theorem Reconciled.inv {s s' : Managers} {active : Finset Int} (h : Reconciled s s' active) :
    s'.Inv where
  nodup := h.nodup
  mem_iff := by
    intro id
    rw [← List.mem_toFinset, h.list_eq, Finmap.mem_keys]
  sound := h.sound

variable {s : Managers}

/-! ## The two loops -/

/-- The first loop starts a manager for each new subscription, once. -/
theorem foldl_addSubscription (s : Managers) (ids : List Int) :
    ∃ new : List Int, new.Nodup ∧ (∀ id, id ∈ new ↔ id ∈ ids ∧ id ∉ s.mSubList) ∧
      ids.foldl addSubscription s =
        ⟨s.mSubList ++ new, s.mImsMmTelManagerExtra.startAll new⟩ := by
  induction ids generalizing s with
  | nil => exact ⟨[], List.nodup_nil, by simp, by simp [Pool.startAll]⟩
  | cons id ids ih =>
      rw [List.foldl_cons, addSubscription]
      split
      · next hid =>
          obtain ⟨new, hnodup, hmem, heq⟩ := ih s
          refine ⟨new, hnodup, ?_, heq⟩
          intro id'
          rw [hmem, List.mem_cons]
          constructor
          · exact fun h => ⟨.inr h.1, h.2⟩
          · rintro ⟨rfl | hids, hnot⟩
            · exact absurd hid hnot
            · exact ⟨hids, hnot⟩
      · next hid =>
          obtain ⟨new, hnodup, hmem, heq⟩ :=
            ih ⟨s.mSubList ++ [id], s.mImsMmTelManagerExtra.start id⟩
          refine ⟨id :: new, ?_, ?_, ?_⟩
          · refine List.nodup_cons.mpr ⟨?_, hnodup⟩
            intro hnew
            exact ((hmem id).mp hnew).2 (by simp)
          · intro id'
            rw [List.mem_cons, hmem, List.mem_cons, List.mem_append, List.mem_singleton]
            by_cases heq : id' = id
            · subst heq
              simp [hid]
            · simp [heq]
          · rw [heq, List.append_assoc]
            rfl

/-- The second loop closes the managers of the subscriptions it is given. -/
theorem foldlM_removeSubscription {gone : List Int} (hnodup : gone.Nodup)
    (hlive : ∀ id ∈ gone, id ∈ s.mImsMmTelManagerExtra.live) :
    gone.foldlM removeSubscription s =
      .ok ⟨s.mSubList.diff gone, s.mImsMmTelManagerExtra.stopAll gone⟩ := by
  induction gone generalizing s with
  | nil => rfl
  | cons id gone ih =>
      obtain ⟨hid, hnodup⟩ := List.nodup_cons.mp hnodup
      obtain ⟨hidLive, hlive⟩ := List.forall_mem_cons.mp hlive
      obtain ⟨obj, hobj⟩ := Finmap.mem_iff.mp hidLive
      have hremove : removeSubscription s id =
          .ok ⟨s.mSubList.erase id, s.mImsMmTelManagerExtra.stop id⟩ := by
        rw [removeSubscription, hobj]
      rw [List.foldlM_cons, hremove, ok_bind, ih hnodup, List.diff_cons]
      · rfl
      · intro id' hid'
        apply Finmap.mem_erase.mpr
        refine ⟨?_, hlive id' hid'⟩
        rintro rfl
        exact hid hid'

/-- Both loops, on a list and a map that agree. -/
theorem step_on (h : s.Inv) (ids : List Int) :
    ∃ new gone : List Int, new.Nodup ∧ (∀ id, id ∈ new ↔ id ∈ ids ∧ id ∉ s.mSubList) ∧
      (∀ id, id ∈ gone ↔ id ∈ s.mSubList ∧ id ∉ ids) ∧
      s.step (.on ids) = .ok ⟨(s.mSubList ++ new).diff gone,
        (s.mImsMmTelManagerExtra.startAll new).stopAll gone⟩ := by
  obtain ⟨new, hnodup, hmem, heq⟩ := foldl_addSubscription s ids
  have hall : (s.mSubList ++ new).Nodup := by
    refine List.nodup_append.mpr ⟨h.nodup, hnodup, ?_⟩
    rintro id hold _ hnew rfl
    exact ((hmem id).mp hnew).2 hold
  refine ⟨new, (s.mSubList ++ new).filter fun id => id ∉ ids, hnodup, hmem, ?_, ?_⟩
  · intro id
    simp only [List.mem_filter, List.mem_append, hmem]
    simp
    tauto
  · have hlive : ∀ id ∈ (s.mSubList ++ new).filter fun id => id ∉ ids,
        id ∈ (s.mImsMmTelManagerExtra.startAll new).live := by
      intro id hid
      rcases List.mem_append.mp (List.mem_filter.mp hid).1 with hold | hnew
      · exact Pool.mem_startAll.mpr (.inr ((h.mem_iff id).mp hold))
      · exact Pool.mem_startAll.mpr (.inl hnew)
    have hloop := foldlM_removeSubscription (s := ⟨s.mSubList ++ new, _⟩) (hall.filter _) hlive
    rw [List.foldlM_filter] at hloop
    have hskip : (fun s mSubId => if mSubId ∈ ids then .ok s else removeSubscription s mSubId) =
        fun s mSubId => if decide (mSubId ∉ ids) = true then removeSubscription s mSubId
          else (pure s : Outcome Managers Managers) := by
      funext s mSubId
      by_cases hid : mSubId ∈ ids
      · simp only [hid, if_true, not_true_eq_false, decide_false, Bool.false_eq_true, if_false]
        rfl
      · simp [hid]
    simp only [Managers.step, manageImsIcons, if_true, heq, hskip]
    exact hloop

theorem step_off : s.step .off = s.step (.on []) := by
  simp [Managers.step, manageImsIcons]

theorem Managers.Inv.reconciles_on (h : s.Inv) (ids : List Int) :
    ∃ s', s.step (.on ids) = .ok s' ∧ Reconciled s s' ids.toFinset := by
  obtain ⟨new, gone, hnodup, hnew, hgone, hstep⟩ := step_on h ids
  have hnewLive : ∀ id ∈ new, id ∉ s.mImsMmTelManagerExtra.live := by
    intro id hid hlive
    exact ((hnew id).mp hid).2 ((h.mem_iff id).mpr hlive)
  have hall : (s.mSubList ++ new).Nodup := by
    refine List.nodup_append.mpr ⟨h.nodup, hnodup, ?_⟩
    rintro id hold _ hid rfl
    exact ((hnew id).mp hid).2 hold
  have hkept : ∀ id ∈ ids, id ∉ gone := fun id hid hgoneId => ((hgone id).mp hgoneId).2 hid
  have hmem : ∀ id, id ∈ ((s.mImsMmTelManagerExtra.startAll new).stopAll gone).live ↔ id ∈ ids := by
    intro id
    rw [Pool.mem_stopAll, Pool.mem_startAll, hnew, hgone, ← h.mem_iff]
    tauto
  refine ⟨_, hstep, hall.diff, ?_, ?_, ?_, ?_, ?_⟩
  · ext id
    rw [List.mem_toFinset, hall.mem_sdiff_iff, Finmap.mem_keys, hmem, List.mem_append, hnew, hgone]
    tauto
  · ext id
    rw [Finmap.mem_keys, hmem, List.mem_toFinset]
  · intro id hlive hactive
    have hid : id ∉ new := fun hid => hnewLive id hid hlive
    exact (Pool.lookup_stopAll_of_notMem (hkept id (List.mem_toFinset.mp hactive))).trans
      (Pool.lookup_startAll_of_notMem hid)
  · obtain ⟨log, hlog, hstarted, hstopped⟩ :=
      Pool.startAll_stopAll_log (p := s.mImsMmTelManagerExtra) hnodup
        fun id hid => hkept id ((hnew id).mp hid).1
    refine ⟨log, hlog, ?_, ?_⟩
    · intro obj
      rw [hstarted]
      constructor
      · rintro ⟨id, hid, hlookup⟩
        exact ⟨id, hnewLive id hid, hlookup⟩
      · rintro ⟨id, hlive, hlookup⟩
        have hid : id ∈ ids := (hmem id).mp (Finmap.mem_of_lookup_eq_some hlookup)
        exact ⟨id, (hnew id).mpr ⟨hid, fun hold => hlive ((h.mem_iff id).mp hold)⟩, hlookup⟩
    · intro obj
      rw [hstopped]
      constructor
      · rintro ⟨id, hid, hlookup⟩
        exact ⟨id, by simpa using ((hgone id).mp hid).2, hlookup⟩
      · rintro ⟨id, hactive, hlookup⟩
        have hlist := (h.mem_iff id).mpr (Finmap.mem_of_lookup_eq_some hlookup)
        exact ⟨id, (hgone id).mpr ⟨hlist, by simpa using hactive⟩, hlookup⟩
  · exact (h.sound.startAll hnodup hnewLive).stopAll gone

/-- **After every call the managers are those of the subscriptions just given, each the one that was
there before if there was one; and every manager there ever was has been started exactly once, and
closed exactly once if its subscription is gone.** -/
theorem managers_reconciled (calls : List Call) :
    EveryStep Managers.step Reconciles .empty calls := by
  have hgood : ∀ s call, Managers.Inv s → Reconciles s call := by
    intro s call h
    cases call with
    | on ids => exact h.reconciles_on ids
    | off =>
        obtain ⟨s', hstep, hreconciled⟩ := h.reconciles_on []
        exact ⟨s', step_off.trans hstep, hreconciled⟩
  refine EveryStep.imp (P := Managers.Inv) (C := fun _ _ => True) ?_ ?_ Managers.inv_empty
    everyStep_true
  · intro s call s' h _ hok
    obtain ⟨s₁, hstep, hreconciled⟩ := hgood s call h
    cases hstep.symm.trans hok
    exact hreconciled.inv
  · intro s call h _
    exact hgood s call h

end VendorRs.Ims
