import Mathlib.Logic.Function.Basic
import VendorRs.Java.Lang
import VendorRs.Lib.Looper
import VendorRs.Lib.Runs

/-!
# A single IMS manager

An `ImsMmTelManagerExtra` shows the VoLTE and the VoWiFi icon of one subscription. It listens to
five things: changes of the subscriptions, the phone state, three settings, the IMS registration and
the IMS capabilities, the last two from the first subscription change that finds its subscription to
be the default one for data. Each of them makes it look at both icons again, at once and, to be
sure, once more after five seconds.

`onClose` takes all of this back but the first: the listener for subscription changes stays, and
will register the IMS callbacks again. `closed_inert_iff` says exactly when.
-/

namespace VendorRs.Ims

open Java Runs

/-! ## The manager -/

inductive Icon where
  | volte
  | vowifi
  deriving DecidableEq, Repr

/-- `showVolteIconTimeoutInt` and `showVowifiIconTimeoutInt`. -/
def Icon.timeout : Icon → Int
  | .volte => 5000
  | .vowifi => 5000

/-- What telephony answers while an icon is looked at. -/
structure Situation where
  /-- Without it, `checkCurrentSituation` throws a `RuntimeException`. -/
  ready : Bool
  imsRegistered : Bool
  voiceCapable : Bool
  videoCapable : Bool
  /-- The user's switch, off also if asking for it throws. -/
  switchOn : Bool
  deriving DecidableEq, Repr

/-- `isVolteAvailable` and `isVowifiAvailable`, each with the capabilities and the switch of its own
technology. -/
def Situation.isAvailable (r : Situation) : Bool :=
  r.ready && (r.switchOn && (r.voiceCapable || r.videoCapable) && r.imsRegistered)

/-- What a manager does to the world around it that a closed one should not. -/
inductive Effect where
  | registerImsRegistrationCallback
  | registerMmTelCapabilityCallback
  | postDelayed (icon : Icon)
  | setIcon (icon : Icon)
  deriving DecidableEq, Repr

structure Manager where
  mSubId : Int
  /-- `volteConfirmationCheckNeeded` and `vowifiConfirmationCheckNeeded`. -/
  confirmationCheckNeeded : Icon → Bool
  isImsExtraEnabled : Bool
  /-- The queue of `mHandlerCheck`. -/
  checks : Looper Icon
  /-- The preferences `showVolteIcon` and `showVowifiIcon`, if they are set. -/
  userWants : Icon → Option Bool
  visible : Icon → Bool
  /-- The listeners that are registered. -/
  subscriptionsListener : Bool
  phoneStateListener : Bool
  observer : Bool
  imsRegistrationCallback : Bool
  imsCapabilityCallback : Bool
  /-- `onClose` has been called. -/
  closed : Bool
  /-- Everything done so far. -/
  effects : List Effect

/-- `showVolteIcon` and `showVoWifiIcon`. -/
def Manager.showIcon (s : Manager) (icon : Icon) (isAvailable : Bool) : Manager :=
  let s :=
    if s.confirmationCheckNeeded icon then
      { s with
        checks := s.checks.post icon.timeout icon
        effects := s.effects ++ [.postDelayed icon] }
    else s
  if isAvailable && (s.userWants icon).getD false then
    { s with
      visible := Function.update s.visible icon true
      effects := s.effects ++ [.setIcon icon] }
  else { s with visible := Function.update s.visible icon false }

def showVolteIcon (s : Manager) (isVolteAvailable : Bool) : Manager :=
  s.showIcon .volte isVolteAvailable

def showVoWifiIcon (s : Manager) (isVowifiAvailable : Bool) : Manager :=
  s.showIcon .vowifi isVowifiAvailable

/-- What every listener but one does: both icons are looked at, and again later. -/
def Manager.refresh (s : Manager) (volte vowifi : Situation) : Manager :=
  let s := { s with confirmationCheckNeeded := fun _ => true }
  showVoWifiIcon (showVolteIcon s volte.isAvailable) vowifi.isAvailable

/-- `onStartup` of a new manager. -/
def onStartup (mSubId : Int) (userWants : Icon → Option Bool) (visible : Icon → Bool)
    (volte vowifi : Situation) : Manager :=
  Manager.refresh
    { mSubId := mSubId
      confirmationCheckNeeded := fun _ => true
      isImsExtraEnabled := false
      checks := .empty 0
      userWants := userWants
      visible := visible
      subscriptionsListener := true
      phoneStateListener := true
      observer := true
      imsRegistrationCallback := false
      imsCapabilityCallback := false
      closed := false
      effects := [] }
    volte vowifi

def unregisterAll (s : Manager) : Manager :=
  { s with
    imsRegistrationCallback := false
    imsCapabilityCallback := false
    phoneStateListener := false
    isImsExtraEnabled := false }

def onClose (s : Manager) : Manager :=
  let s := { s with confirmationCheckNeeded := fun _ => false, closed := true }
  let s := unregisterAll (showVoWifiIcon (showVolteIcon s false) false)
  { s with checks := .empty s.checks.now, observer := false }

/-! ## Callbacks -/

/-- `enableImsCallbacks`, where the two registrations return, or throw an `ImsException`. -/
def enableImsCallbacks (s : Manager) (registration capability : Bool) : Manager :=
  if registration then
    let s := { s with
      imsRegistrationCallback := true
      isImsExtraEnabled := true
      effects := s.effects ++ [Effect.registerImsRegistrationCallback] }
    if capability then
      { s with
        imsCapabilityCallback := true
        isImsExtraEnabled := true
        effects := s.effects ++ [Effect.registerMmTelCapabilityCallback] }
    else
      -- the registration callback stays registered
      { s with imsCapabilityCallback := false, isImsExtraEnabled := false }
  else { s with imsRegistrationCallback := false, isImsExtraEnabled := false }

/-- `INVALID_SUBSCRIPTION_ID`. -/
def invalidSubscriptionId : Int := -1

/-- `mSubscriptionsChangedListener`; `newSIM` is the default subscription for data. -/
def Manager.onSubscriptionsChanged (s : Manager) (newSIM : Int) (registration capability : Bool) :
    Manager :=
  if newSIM = invalidSubscriptionId then s
  else if s.mSubId ≠ newSIM then s
  else if s.isImsExtraEnabled then s
  else enableImsCallbacks s registration capability

/-- The next check of `mHandlerCheck` runs, once it is due. -/
def Manager.runCheck (s : Manager) (situation : Situation) : Manager :=
  match s.checks.deliver with
  | some (icon, checks) =>
      Manager.showIcon
        { s with
          checks := checks
          confirmationCheckNeeded := Function.update s.confirmationCheckNeeded icon false }
        icon situation.isAvailable
  | none => s

inductive ManagerEvent where
  | subscriptionsChanged (newSIM : Int) (registration capability : Bool)
  | phoneState (volte vowifi : Situation)
  | contentObserver (volte vowifi : Situation)
  | imsRegistration (volte vowifi : Situation)
  | imsCapability (volte vowifi : Situation)
  | delayedCheck (situation : Situation)
  | wait (ms : Nat)
  | setPreference (icon : Icon) (value : Option Bool)
  | notifyUserSettingChange (volte vowifi : Situation)
  | onClose
  deriving DecidableEq, Repr

/-- One event. A listener that is not registered is told nothing, and `MainService` has forgotten a
manager once it has closed it. -/
def Manager.step (s : Manager) : ManagerEvent → Outcome Manager Manager
  | .subscriptionsChanged newSIM registration capability =>
      .ok (if s.subscriptionsListener then s.onSubscriptionsChanged newSIM registration capability
        else s)
  | .phoneState volte vowifi => .ok (if s.phoneStateListener then s.refresh volte vowifi else s)
  | .contentObserver volte vowifi => .ok (if s.observer then s.refresh volte vowifi else s)
  | .imsRegistration volte vowifi =>
      .ok (if s.imsRegistrationCallback then s.refresh volte vowifi else s)
  | .imsCapability volte vowifi =>
      .ok (if s.imsCapabilityCallback then s.refresh volte vowifi else s)
  | .delayedCheck situation => .ok (s.runCheck situation)
  | .wait ms => .ok { s with checks := s.checks.wait ms }
  | .setPreference icon value =>
      .ok { s with userWants := Function.update s.userWants icon value }
  | .notifyUserSettingChange volte vowifi => .ok (if s.closed then s else s.refresh volte vowifi)
  | .onClose => .ok (if s.closed then s else Ims.onClose s)

/-! ## What should hold, and when it does -/

/-- A manager that is closed does nothing. -/
def Inert (s : Manager) (e : ManagerEvent) : Prop :=
  ∀ s', s.step e = .ok s' → s.closed = true → s'.effects = s.effects

/-- A subscription change that finds a closed manager's subscription to be the default one for data
cannot register the IMS registration callback. -/
def NotDefaultAgain (s : Manager) : ManagerEvent → Prop
  | .subscriptionsChanged newSIM registration _ => s.closed = true →
      newSIM ≠ invalidSubscriptionId → newSIM = s.mSubId → registration = false
  | _ => True

instance (s : Manager) (e : ManagerEvent) : Decidable (Inert s e) :=
  decidableForallOk (s.step e) fun s' => s.closed = true → s'.effects = s.effects

instance (s : Manager) : ∀ e, Decidable (NotDefaultAgain s e)
  | .subscriptionsChanged _ _ _ => inferInstanceAs (Decidable (_ → _ → _ → _))
  | .phoneState _ _ | .contentObserver _ _ | .imsRegistration _ _ | .imsCapability _ _
  | .delayedCheck _ | .wait _ | .setPreference _ _ | .notifyUserSettingChange _ _ | .onClose =>
      inferInstanceAs (Decidable True)

/-- What `onClose` leaves. -/
structure Manager.Quiet (s : Manager) : Prop where
  phoneState : s.phoneStateListener = false
  observer : s.observer = false
  imsRegistration : s.imsRegistrationCallback = false
  imsCapability : s.imsCapabilityCallback = false
  checks : s.checks.queue = []
  isImsExtraEnabled : s.isImsExtraEnabled = false

structure Manager.Inv (s : Manager) : Prop where
  /-- Nobody removes this listener. -/
  listening : s.subscriptionsListener = true
  quiet : s.closed = true → s.Quiet

variable {s s' : Manager} {e : ManagerEvent} {icon : Icon} {isAvailable : Bool}
  {volte vowifi situation : Situation}

/-! ## Steps -/

@[simp] theorem showIcon_listening :
    (s.showIcon icon isAvailable).subscriptionsListener = s.subscriptionsListener := by
  unfold Manager.showIcon
  dsimp only
  split <;> split <;> rfl

@[simp] theorem showIcon_closed : (s.showIcon icon isAvailable).closed = s.closed := by
  unfold Manager.showIcon
  dsimp only
  split <;> split <;> rfl

/-- As long as a manager is not closed, there is nothing to keep but the listener. -/
theorem Manager.inv_open (hlistening : s.subscriptionsListener = true) (hopen : s.closed = false) :
    s.Inv where
  listening := hlistening
  quiet := by
    intro hclosed
    cases hopen.symm.trans hclosed

theorem Manager.Inv.refresh (h : s.Inv) (hopen : s.closed = false) :
    (s.refresh volte vowifi).Inv := by
  apply Manager.inv_open
  · simp [Manager.refresh, showVolteIcon, showVoWifiIcon, h.listening]
  · simp [Manager.refresh, showVolteIcon, showVoWifiIcon, hopen]

theorem Manager.inv_onStartup (mSubId : Int) (userWants : Icon → Option Bool)
    (visible : Icon → Bool) (volte vowifi : Situation) :
    (onStartup mSubId userWants visible volte vowifi).Inv := by
  unfold onStartup
  exact Manager.Inv.refresh (Manager.inv_open rfl rfl) rfl

theorem Manager.Inv.onClose (h : s.Inv) : (Ims.onClose s).Inv where
  listening := by
    simp [Ims.onClose, unregisterAll, showVolteIcon, showVoWifiIcon, h.listening]
  quiet := fun _ => ⟨rfl, rfl, rfl, rfl, rfl, rfl⟩

/-- A change of the subscriptions that is of no interest, or comes too late. -/
theorem onSubscriptionsChanged_skip {newSIM : Int} {registration capability : Bool}
    (hskip : ¬(newSIM ≠ invalidSubscriptionId ∧ newSIM = s.mSubId ∧ s.isImsExtraEnabled = false)) :
    s.onSubscriptionsChanged newSIM registration capability = s := by
  unfold Manager.onSubscriptionsChanged
  split_ifs with hinvalid hother henabled
  · rfl
  · rfl
  · rfl
  · exact absurd ⟨hinvalid, (not_not.mp hother).symm, by simpa using henabled⟩ hskip

theorem onSubscriptionsChanged_registers {newSIM : Int} {registration capability : Bool}
    (hvalid : newSIM ≠ invalidSubscriptionId) (hsame : newSIM = s.mSubId)
    (hdisabled : s.isImsExtraEnabled = false) :
    s.onSubscriptionsChanged newSIM registration capability =
      enableImsCallbacks s registration capability := by
  rw [Manager.onSubscriptionsChanged, if_neg hvalid, if_neg (not_not.mpr hsame.symm), hdisabled]
  rfl

/-- A subscription change changes nothing else about who listens, and who is closed. -/
theorem onSubscriptionsChanged_listening (s : Manager) (newSIM : Int)
    (registration capability : Bool) :
    (s.onSubscriptionsChanged newSIM registration capability).subscriptionsListener =
        s.subscriptionsListener ∧
      (s.onSubscriptionsChanged newSIM registration capability).closed = s.closed := by
  unfold Manager.onSubscriptionsChanged enableImsCallbacks
  dsimp only
  split_ifs <;> exact ⟨rfl, rfl⟩

/-- A listener of an open manager. -/
theorem Manager.Inv.told (h : s.Inv) {b : Bool} (hquiet : s.closed = true → b = false) :
    (if b then s.refresh volte vowifi else s).Inv := by
  split
  · next hb =>
      apply h.refresh
      by_contra hclosed
      cases hb.symm.trans (hquiet (by simpa using hclosed))
  · exact h

theorem Manager.Inv.runCheck (h : s.Inv) : (s.runCheck situation).Inv := by
  unfold Manager.runCheck
  split
  · next icon checks hdeliver =>
      cases hclosed : s.closed with
      | true =>
          obtain ⟨-, due, -, hqueue⟩ := Looper.deliver_eq_some hdeliver
          rw [(h.quiet hclosed).checks] at hqueue
          cases hqueue
      | false => exact Manager.inv_open (by simp [h.listening]) (by simp)
  · exact h

/-- A closed manager that is told of a subscription change, of no interest to it or in vain. -/
theorem Manager.Quiet.onSubscriptionsChanged (h : s.Quiet) {newSIM : Int}
    {registration capability : Bool}
    (hnot : newSIM ≠ invalidSubscriptionId → newSIM = s.mSubId → registration = false) :
    (s.onSubscriptionsChanged newSIM registration capability).Quiet ∧
      (s.onSubscriptionsChanged newSIM registration capability).effects = s.effects := by
  by_cases hinterest :
      newSIM ≠ invalidSubscriptionId ∧ newSIM = s.mSubId ∧ s.isImsExtraEnabled = false
  · obtain ⟨hvalid, hsame, hdisabled⟩ := hinterest
    rw [onSubscriptionsChanged_registers hvalid hsame hdisabled, enableImsCallbacks,
      hnot hvalid hsame]
    exact ⟨{ h with imsRegistration := rfl, isImsExtraEnabled := rfl }, rfl⟩
  · rw [onSubscriptionsChanged_skip hinterest]
    exact ⟨h, rfl⟩

theorem Manager.Inv.step (h : s.Inv) (hnot : NotDefaultAgain s e) (hok : s.step e = .ok s') :
    s'.Inv := by
  cases e with
  | subscriptionsChanged newSIM registration capability =>
      cases hok
      rw [if_pos h.listening]
      obtain ⟨hlistening, hclosed⟩ :=
        onSubscriptionsChanged_listening s newSIM registration capability
      refine ⟨hlistening.trans h.listening, ?_⟩
      rw [hclosed]
      intro hc
      exact ((h.quiet hc).onSubscriptionsChanged (hnot hc)).1
  | phoneState volte vowifi => cases hok; exact h.told fun hc => (h.quiet hc).phoneState
  | contentObserver volte vowifi => cases hok; exact h.told fun hc => (h.quiet hc).observer
  | imsRegistration volte vowifi => cases hok; exact h.told fun hc => (h.quiet hc).imsRegistration
  | imsCapability volte vowifi => cases hok; exact h.told fun hc => (h.quiet hc).imsCapability
  | delayedCheck situation => cases hok; exact h.runCheck
  | wait ms =>
      cases hok
      refine ⟨h.listening, ?_⟩
      intro hc
      exact { h.quiet hc with }
  | setPreference icon value =>
      cases hok
      refine ⟨h.listening, ?_⟩
      intro hc
      exact { h.quiet hc with }
  | notifyUserSettingChange volte vowifi =>
      cases hok
      split
      · exact h
      · next hclosed => exact h.refresh (by simpa using hclosed)
  | onClose =>
      cases hok
      split
      · exact h
      · exact h.onClose

/-- Of everything else a closed manager is told nothing. -/
theorem Manager.Quiet.step_effects (h : s.Quiet) (hclosed : s.closed = true)
    (hother : ∀ newSIM registration capability,
      e ≠ .subscriptionsChanged newSIM registration capability)
    (hok : s.step e = .ok s') : s'.effects = s.effects := by
  cases e with
  | subscriptionsChanged newSIM registration capability => exact absurd rfl (hother _ _ _)
  | phoneState volte vowifi =>
      cases hok
      rw [h.phoneState]
      rfl
  | contentObserver volte vowifi =>
      cases hok
      rw [h.observer]
      rfl
  | imsRegistration volte vowifi =>
      cases hok
      rw [h.imsRegistration]
      rfl
  | imsCapability volte vowifi =>
      cases hok
      rw [h.imsCapability]
      rfl
  | delayedCheck situation =>
      cases hok
      unfold Manager.runCheck
      split
      · next icon checks hdeliver =>
          obtain ⟨-, due, -, hqueue⟩ := Looper.deliver_eq_some hdeliver
          rw [h.checks] at hqueue
          cases hqueue
      · rfl
  | wait ms => cases hok; rfl
  | setPreference icon value => cases hok; rfl
  | notifyUserSettingChange volte vowifi =>
      cases hok
      rw [hclosed]
      rfl
  | onClose =>
      cases hok
      rw [hclosed]
      rfl

theorem enableImsCallbacks_effects {capability : Bool} :
    (enableImsCallbacks s true capability).effects ≠ s.effects := by
  intro heffects
  have hlength := congrArg List.length heffects
  cases capability <;> simp [enableImsCallbacks] at hlength

/-- A closed manager does something exactly if a subscription change makes it register again. -/
theorem Manager.Quiet.inert_iff (h : s.Quiet) (hlistening : s.subscriptionsListener = true)
    (hclosed : s.closed = true) : Inert s e ↔ NotDefaultAgain s e := by
  by_cases hother : ∀ newSIM registration capability,
      e ≠ .subscriptionsChanged newSIM registration capability
  · refine iff_of_true ?_ ?_
    · intro s' hok _
      exact h.step_effects hclosed hother hok
    · cases e with
      | subscriptionsChanged newSIM registration capability => exact absurd rfl (hother _ _ _)
      | _ => trivial
  · push Not at hother
    obtain ⟨newSIM, registration, capability, rfl⟩ := hother
    constructor
    · intro hinert _ hvalid hsame
      by_contra hreg
      have hreg : registration = true := by simpa using hreg
      have heffects := hinert _ rfl hclosed
      rw [if_pos hlistening, onSubscriptionsChanged_registers hvalid hsame h.isImsExtraEnabled,
        hreg] at heffects
      exact enableImsCallbacks_effects heffects
    · intro hnot s' hok _
      cases hok
      rw [if_pos hlistening]
      exact (h.onSubscriptionsChanged (hnot hclosed)).2

theorem Manager.Inv.inert_iff (h : s.Inv) : Inert s e ↔ NotDefaultAgain s e := by
  by_cases hclosed : s.closed = true
  · exact (h.quiet hclosed).inert_iff h.listening hclosed
  · refine iff_of_true ?_ ?_
    · intro s' _ hc
      exact absurd hc hclosed
    · cases e with
      | subscriptionsChanged newSIM registration capability => exact fun hc => absurd hc hclosed
      | _ => trivial

/-- **A closed manager registers no callback, posts no check and sets no icon, if and only if no
subscription change finds its subscription to be the default one for data again, or the IMS
registration callback cannot be registered then.** -/
theorem closed_inert_iff (mSubId : Int) (userWants : Icon → Option Bool) (visible : Icon → Bool)
    (volte vowifi : Situation) (evs : List ManagerEvent) :
    EveryStep Manager.step Inert (onStartup mSubId userWants visible volte vowifi) evs ↔
      EveryStep Manager.step NotDefaultAgain (onStartup mSubId userWants visible volte vowifi)
        evs := by
  apply everyStep_iff (P := Manager.Inv) (B := fun _ _ => True)
  · intro s e s' h _ hnot hok
    exact h.step hnot hok
  · intro s e h _
    exact h.inert_iff
  · exact Manager.inv_onStartup _ _ _ _ _
  · exact everyStep_true

/-- The subscription is the default one for data when the manager is closed, and still is at the
next change. -/
theorem closed_manager_registers_again :
    ¬ EveryStep Manager.step Inert
      (onStartup 1 (fun _ => some true) (fun _ => false) ⟨true, true, true, false, true⟩
        ⟨true, true, false, false, true⟩)
      [.subscriptionsChanged 1 true true, .onClose, .subscriptionsChanged 1 true true] := by
  decide +kernel

end VendorRs.Ims
