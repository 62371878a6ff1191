import VendorRs.Ims.Manager

/-!
# The two IMS callbacks, registered together or not at all

`enableImsCallbacks` registers two callbacks, and either registration may fail. `isImsExtraEnabled`
is all that a manager knows of the outcome: while it is set nothing is registered again, and if it
is not, the next subscription change has another try.

A failure of the second registration takes back the flag but not the first registration. So the flag
can be trusted until that happens, and not afterwards: `registration_atomic_iff`.
-/

namespace VendorRs.Ims

open Java Runs

/-- Both callbacks are registered, and the flag says so; or neither is, and the flag says that. -/
structure Manager.Together (s : Manager) : Prop where
  enabled : s.isImsExtraEnabled = true ↔
    s.imsRegistrationCallback = true ∧ s.imsCapabilityCallback = true
  disabled : s.isImsExtraEnabled = false →
    s.imsRegistrationCallback = false ∧ s.imsCapabilityCallback = false

/-- On the way from `s` to `s'` no callback has been registered that was registered already. -/
structure RegisteredOnce (s s' : Manager) : Prop where
  registration :
    s.effects.count .registerImsRegistrationCallback <
      s'.effects.count .registerImsRegistrationCallback → s.imsRegistrationCallback = false
  capability :
    s.effects.count .registerMmTelCapabilityCallback <
      s'.effects.count .registerMmTelCapabilityCallback → s.imsCapabilityCallback = false

def RegistersAtomically (s : Manager) (e : ManagerEvent) : Prop :=
  ∀ s', s.step e = .ok s' → s'.Together ∧ RegisteredOnce s s'

/-- Where the callbacks are to be registered, not just the second registration fails. -/
def NotHalfway (s : Manager) : ManagerEvent → Prop
  | .subscriptionsChanged newSIM registration capability =>
      newSIM ≠ invalidSubscriptionId → newSIM = s.mSubId → s.isImsExtraEnabled = false →
        registration = true → capability = true
  | _ => True

instance (s : Manager) : Decidable s.Together :=
  decidable_of_iff
    ((s.isImsExtraEnabled = true ↔
        s.imsRegistrationCallback = true ∧ s.imsCapabilityCallback = true) ∧
      (s.isImsExtraEnabled = false →
        s.imsRegistrationCallback = false ∧ s.imsCapabilityCallback = false))
    ⟨fun h => ⟨h.1, h.2⟩, fun h => ⟨h.enabled, h.disabled⟩⟩

instance (s s' : Manager) : Decidable (RegisteredOnce s s') :=
  decidable_of_iff
    ((s.effects.count .registerImsRegistrationCallback <
        s'.effects.count .registerImsRegistrationCallback → s.imsRegistrationCallback = false) ∧
      (s.effects.count .registerMmTelCapabilityCallback <
        s'.effects.count .registerMmTelCapabilityCallback → s.imsCapabilityCallback = false))
    ⟨fun h => ⟨h.1, h.2⟩, fun h => ⟨h.registration, h.capability⟩⟩

instance (s : Manager) (e : ManagerEvent) : Decidable (RegistersAtomically s e) :=
  decidableForallOk (s.step e) fun s' => s'.Together ∧ RegisteredOnce s s'

variable {s s' : Manager} {e : ManagerEvent} {icon : Icon} {isAvailable : Bool}
  {volte vowifi situation : Situation}

/-! ## What has nothing to do with the callbacks -/

/-- The flag and the callbacks, and how often each of them has been registered. -/
structure Callbacks where
  subscriptionsListener : Bool
  isImsExtraEnabled : Bool
  imsRegistrationCallback : Bool
  imsCapabilityCallback : Bool
  registrations : Nat
  capabilities : Nat

def Manager.callbacks (s : Manager) : Callbacks where
  subscriptionsListener := s.subscriptionsListener
  isImsExtraEnabled := s.isImsExtraEnabled
  imsRegistrationCallback := s.imsRegistrationCallback
  imsCapabilityCallback := s.imsCapabilityCallback
  registrations := s.effects.count .registerImsRegistrationCallback
  capabilities := s.effects.count .registerMmTelCapabilityCallback

@[simp] theorem showIcon_callbacks : (s.showIcon icon isAvailable).callbacks = s.callbacks := by
  unfold Manager.showIcon
  dsimp only
  split <;> split <;> simp [Manager.callbacks]

@[simp] theorem refresh_callbacks : (s.refresh volte vowifi).callbacks = s.callbacks := by
  simp only [Manager.refresh, showVolteIcon, showVoWifiIcon, showIcon_callbacks]
  rfl

@[simp] theorem runCheck_callbacks : (s.runCheck situation).callbacks = s.callbacks := by
  unfold Manager.runCheck
  split
  · rw [showIcon_callbacks]
    rfl
  · rfl

theorem told_callbacks (b : Bool) :
    (if b then s.refresh volte vowifi else s).callbacks = s.callbacks := by
  split
  · exact refresh_callbacks
  · rfl

theorem step_callbacks
    (hchange : ∀ newSIM registration capability,
      e ≠ .subscriptionsChanged newSIM registration capability)
    (hclose : e ≠ .onClose) (hok : s.step e = .ok s') : s'.callbacks = s.callbacks := by
  cases e with
  | subscriptionsChanged newSIM registration capability => exact absurd rfl (hchange _ _ _)
  | onClose => exact absurd rfl hclose
  | phoneState volte vowifi => cases hok; exact told_callbacks _
  | contentObserver volte vowifi => cases hok; exact told_callbacks _
  | imsRegistration volte vowifi => cases hok; exact told_callbacks _
  | imsCapability volte vowifi => cases hok; exact told_callbacks _
  | delayedCheck situation => cases hok; exact runCheck_callbacks
  | wait ms => cases hok; rfl
  | setPreference icon value => cases hok; rfl
  | notifyUserSettingChange volte vowifi =>
      cases hok
      split
      · rfl
      · exact refresh_callbacks

/-! ## What the callbacks are together under -/

structure Manager.Registered (s : Manager) : Prop where
  /-- Nobody removes this listener. -/
  listening : s.subscriptionsListener = true
  together : s.Together

/-- The invariant is about the callbacks alone. -/
theorem Manager.Registered.of_callbacks (h : s.Registered) (hsame : s'.callbacks = s.callbacks) :
    s'.Registered := by
  obtain ⟨hlistening, henabled, hdisabled⟩ := h
  have hflag : s'.isImsExtraEnabled = s.isImsExtraEnabled :=
    congrArg Callbacks.isImsExtraEnabled hsame
  have hregistration : s'.imsRegistrationCallback = s.imsRegistrationCallback :=
    congrArg Callbacks.imsRegistrationCallback hsame
  have hcapability : s'.imsCapabilityCallback = s.imsCapabilityCallback :=
    congrArg Callbacks.imsCapabilityCallback hsame
  refine ⟨(congrArg Callbacks.subscriptionsListener hsame).trans hlistening, ?_, ?_⟩
  · rw [hflag, hregistration, hcapability]
    exact henabled
  · rw [hflag, hregistration, hcapability]
    exact hdisabled

theorem registeredOnce_of_callbacks (hsame : s'.callbacks = s.callbacks) : RegisteredOnce s s' where
  registration := fun h => absurd (congrArg Callbacks.registrations hsame) (Nat.ne_of_gt h)
  capability := fun h => absurd (congrArg Callbacks.capabilities hsame) (Nat.ne_of_gt h)

theorem Manager.registered_onStartup (mSubId : Int) (userWants : Icon → Option Bool)
    (visible : Icon → Bool) (volte vowifi : Situation) :
    (onStartup mSubId userWants visible volte vowifi).Registered := by
  unfold onStartup
  refine Manager.Registered.of_callbacks ?_ refresh_callbacks
  exact ⟨rfl, ⟨by simp, by simp⟩⟩

/-! ## Taking them back -/

/-- `onClose` takes back both, and the flag with them. -/
theorem onClose_callbacks : (onClose s).callbacks =
    { s.callbacks with
      isImsExtraEnabled := false
      imsRegistrationCallback := false
      imsCapabilityCallback := false } := by
  have hicons : (showVoWifiIcon (showVolteIcon
      { s with confirmationCheckNeeded := fun _ => false, closed := true } false) false).callbacks =
      s.callbacks := by
    rw [showVoWifiIcon, showIcon_callbacks, showVolteIcon, showIcon_callbacks]
    rfl
  rw [← hicons]
  rfl

theorem Manager.Registered.onClose (h : s.Registered) : (Ims.onClose s).Registered where
  listening := (congrArg Callbacks.subscriptionsListener onClose_callbacks).trans h.listening
  together := by
    have hflag : (Ims.onClose s).isImsExtraEnabled = false := rfl
    refine ⟨?_, fun _ => ⟨rfl, rfl⟩⟩
    rw [hflag]
    exact ⟨fun h => absurd h (by simp), fun h => absurd h.1 (by simp [Ims.onClose, unregisterAll])⟩

theorem registeredOnce_onClose : RegisteredOnce s (onClose s) where
  registration := fun h =>
    absurd (congrArg Callbacks.registrations onClose_callbacks) (Nat.ne_of_gt h)
  capability := fun h =>
    absurd (congrArg Callbacks.capabilities onClose_callbacks) (Nat.ne_of_gt h)

/-! ## Registering them -/

/-- If both registrations return, or the first one throws, the flag is right afterwards. -/
theorem Manager.Registered.enableImsCallbacks (h : s.Registered) {registration capability : Bool}
    (hdisabled : s.isImsExtraEnabled = false) (hboth : registration = true → capability = true) :
    (Ims.enableImsCallbacks s registration capability).Registered ∧
      RegisteredOnce s (Ims.enableImsCallbacks s registration capability) := by
  obtain ⟨hregistration, hcapability⟩ := h.together.disabled hdisabled
  refine ⟨?_, fun _ => hregistration, fun _ => hcapability⟩
  cases registration with
  | true =>
      rw [hboth rfl]
      exact ⟨h.listening, by simp [Ims.enableImsCallbacks], by simp [Ims.enableImsCallbacks]⟩
  | false =>
      exact ⟨h.listening, by simp [Ims.enableImsCallbacks],
        by simp [Ims.enableImsCallbacks, hcapability]⟩

/-- If the second one throws, the first callback is registered and the flag denies it. -/
theorem enableImsCallbacks_halfway : ¬ (enableImsCallbacks s true false).Together := by
  intro h
  have hregistered : (enableImsCallbacks s true false).imsRegistrationCallback = false :=
    (h.disabled rfl).1
  cases hregistered

theorem Manager.Registered.subscriptionsChanged (h : s.Registered) {newSIM : Int}
    {registration capability : Bool}
    (hnot : NotHalfway s (.subscriptionsChanged newSIM registration capability)) :
    (s.onSubscriptionsChanged newSIM registration capability).Registered ∧
      RegisteredOnce s (s.onSubscriptionsChanged newSIM registration capability) := by
  by_cases hinterest :
      newSIM ≠ invalidSubscriptionId ∧ newSIM = s.mSubId ∧ s.isImsExtraEnabled = false
  · obtain ⟨hvalid, hsame, hdisabled⟩ := hinterest
    rw [onSubscriptionsChanged_registers hvalid hsame hdisabled]
    exact h.enableImsCallbacks hdisabled (hnot hvalid hsame hdisabled)
  · rw [onSubscriptionsChanged_skip hinterest]
    exact ⟨h, registeredOnce_of_callbacks rfl⟩

/-! ## Steps and runs -/

theorem Manager.Registered.step (h : s.Registered) (hnot : NotHalfway s e)
    (hok : s.step e = .ok s') : s'.Registered ∧ RegisteredOnce s s' := by
  by_cases hchange : ∃ newSIM registration capability,
      e = .subscriptionsChanged newSIM registration capability
  · obtain ⟨newSIM, registration, capability, rfl⟩ := hchange
    cases hok
    rw [if_pos h.listening]
    exact h.subscriptionsChanged hnot
  · push Not at hchange
    by_cases hclose : e = .onClose
    · subst hclose
      cases hok
      split
      · exact ⟨h, registeredOnce_of_callbacks rfl⟩
      · exact ⟨h.onClose, registeredOnce_onClose⟩
    · have hsame := step_callbacks hchange hclose hok
      exact ⟨h.of_callbacks hsame, registeredOnce_of_callbacks hsame⟩

/-- Registering just one of the two is the only way to go wrong. -/
theorem Manager.Registered.notHalfway (h : s.Registered) (hatomic : RegistersAtomically s e) :
    NotHalfway s e := by
  cases e with
  | subscriptionsChanged newSIM registration capability =>
      intro hvalid hsame hdisabled hregistration
      by_contra hcapability
      obtain ⟨htogether, -⟩ := hatomic _ rfl
      rw [if_pos h.listening, onSubscriptionsChanged_registers hvalid hsame hdisabled,
        hregistration, Bool.eq_false_iff.mpr hcapability] at htogether
      exact enableImsCallbacks_halfway htogether
  | _ => trivial

/-- **After each event the flag says that both callbacks are registered or that neither is, and none
is registered twice, if and only if it never happens that just the registration of the second one
fails.** -/
theorem registration_atomic_iff (mSubId : Int) (userWants : Icon → Option Bool)
    (visible : Icon → Bool) (volte vowifi : Situation) (evs : List ManagerEvent) :
    EveryStep Manager.step RegistersAtomically
        (onStartup mSubId userWants visible volte vowifi) evs ↔
      EveryStep Manager.step NotHalfway (onStartup mSubId userWants visible volte vowifi) evs := by
  apply everyStep_iff (P := Manager.Registered) (B := fun _ _ => True)
  · intro s e s' h _ hnot hok
    exact (h.step hnot hok).1
  · intro s e h _
    constructor
    · exact h.notHalfway
    · intro hnot s' hok
      obtain ⟨hregistered, honce⟩ := h.step hnot hok
      exact ⟨hregistered.together, honce⟩
  · exact Manager.registered_onStartup _ _ _ _ _
  · exact everyStep_true

/-- The capability callback cannot be registered at the first change. At the next one, the other one
is registered again. -/
theorem halfway_registers_again :
    ¬ EveryStep Manager.step RegistersAtomically
      (onStartup 1 (fun _ => some true) (fun _ => false) ⟨true, true, true, false, true⟩
        ⟨true, true, false, false, true⟩)
      [.subscriptionsChanged 1 true false, .subscriptionsChanged 1 true true] := by
  decide +kernel

end VendorRs.Ims
