import VendorRs.LedLightManager.Tracking

/-!
# The power receiver over connect and disconnect

`onListenerDisconnected` always unregisters `mPowerReceiver`; `onListenerConnected` registers it
only while `wasServiceStarted` is false, and nothing ever makes that flag false again. So the
receiver follows the connection for one cycle and no more: `receiver_follows_iff` says that in a run
in which connects and disconnects alternate it is registered exactly while connected, and never
unregistered twice, if and only if the listener is connected at most once.
-/

namespace VendorRs.LedLightManager

open Java Runs

variable {locale : DefaultLocale} {s s' : State} {e : Event} {evs : List Event}

/-- Connects and disconnects, taking turns, with broadcasts and file changes in between. -/
def Alternates (s : State) : Event → Prop
  | .listenerConnected => s.isListenerConnected = false
  | .listenerDisconnected => s.isListenerConnected = true
  | .power _ _ | .configFile _ => True
  | .notificationPosted _ | .notificationRemoved _ => False

/-- `mPowerReceiver` is registered after the step exactly if the listener is connected then, and the
step does not unregister it while it is not registered. -/
def ReceiverFollows (locale : DefaultLocale) (s : State) (e : Event) : Prop :=
  match step locale s e with
  | .ok s' => s'.mPowerReceiver = s'.isListenerConnected
  | .error (x, _) => x ≠ .receiverNotRegistered

/-- The service has not been started by an earlier connection. -/
def FirstConnection (s : State) : Event → Prop
  | .listenerConnected => s.wasServiceStarted = false
  | _ => True

instance (s : State) : ∀ e, Decidable (Alternates s e)
  | .listenerConnected | .listenerDisconnected => inferInstanceAs (Decidable (_ = _))
  | .power _ _ | .configFile _ => inferInstanceAs (Decidable True)
  | .notificationPosted _ | .notificationRemoved _ => inferInstanceAs (Decidable False)

instance (locale : DefaultLocale) (s : State) (e : Event) :
    Decidable (ReceiverFollows locale s e) := by
  unfold ReceiverFollows
  split <;> infer_instance

/-- While connected, the receiver is registered and finds the service enabled. -/
structure ReceiverInv (s : State) : Prop where
  follows : s.mPowerReceiver = s.isListenerConnected
  enabled : s.isListenerConnected = true → s.disableRgb = "1"

theorem receiverInv_created (d : Device) : ReceiverInv (.created d) where
  follows := rfl
  enabled := by
    intro hconn
    cases hconn

/-! ## The lifecycle steps -/

theorem connected_spec (locale : DefaultLocale) (h : ReceiverInv s)
    (halt : Alternates s .listenerConnected) :
    ∃ s', step locale s .listenerConnected = .ok s' ∧ s'.isListenerConnected = true ∧
      s'.mPowerReceiver = !s.wasServiceStarted ∧ s'.wasServiceStarted = true ∧
      s'.disableRgb = "1" := by
  obtain ⟨table, loaded, settings, led, hconn, -, -⟩ := onListenerConnected_spec s
  refine ⟨_, hconn, rfl, ?_, rfl, rfl⟩
  show (s.mPowerReceiver || !s.wasServiceStarted) = !s.wasServiceStarted
  rw [h.follows, halt, Bool.false_or]

theorem disconnected_spec (locale : DefaultLocale) (h : ReceiverInv s)
    (halt : Alternates s .listenerDisconnected) :
    ∃ s', step locale s .listenerDisconnected = .ok s' ∧ s'.isListenerConnected = false ∧
      s'.mPowerReceiver = false ∧ s'.wasServiceStarted = s.wasServiceStarted := by
  obtain ⟨led, hclose, -⟩ := onClose_of_registered (s := { s with isListenerConnected := false })
    (h.follows.trans halt)
  exact ⟨_, hclose, rfl, rfl, rfl⟩

theorem power_spec (locale : DefaultLocale) (h : ReceiverInv s) (action : PowerAction)
    (b : Battery) :
    ∃ led, step locale s (.power action b) = .ok (State.withLed { s with battery := b } led) := by
  by_cases hreg : s.mPowerReceiver = true
  · have hrgb : s.disableRgb = "1" := h.enabled (by rw [← h.follows, hreg])
    obtain ⟨led, hrecv, -⟩ := onPowerReceive_spec (s := { s with battery := b }) hrgb action
    refine ⟨led, ?_⟩
    show (if s.mPowerReceiver then onPowerReceive { s with battery := b } action else _) = _
    rw [if_pos hreg, hrecv]
  · refine ⟨⟨s.onMs, s.offMs, s.lightProps, s.commands⟩, ?_⟩
    show (if s.mPowerReceiver then _ else Except.ok { s with battery := b }) = _
    rw [if_neg hreg]
    rfl

/-- What a step of an alternating run does, once and for all: it returns, it keeps the invariant
unless it is a connection of a service already started, and only a connection starts the service. -/
theorem alternates_spec (locale : DefaultLocale) (h : ReceiverInv s) (halt : Alternates s e) :
    ∃ s', step locale s e = .ok s' ∧
      s'.wasServiceStarted = (s.wasServiceStarted || e = .listenerConnected) ∧
      (FirstConnection s e → ReceiverInv s') ∧
      (s'.mPowerReceiver = s'.isListenerConnected ↔ FirstConnection s e) := by
  cases e with
  | listenerConnected =>
      obtain ⟨s', hok, hconn, hreg, hstarted, hrgb⟩ := connected_spec locale h halt
      have hiff : s'.mPowerReceiver = s'.isListenerConnected ↔ s.wasServiceStarted = false := by
        rw [hreg, hconn, Bool.not_eq_true']
      refine ⟨s', hok, by simp [hstarted], ?_, hiff⟩
      intro hfirst
      constructor
      · exact hiff.mpr hfirst
      · intro _
        exact hrgb
  | listenerDisconnected =>
      obtain ⟨s', hok, hconn, hreg, hstarted⟩ := disconnected_spec locale h halt
      refine ⟨s', hok, by simp [hstarted], ?_, by simp [FirstConnection, hreg, hconn]⟩
      intro _
      constructor
      · rw [hreg, hconn]
      · intro hconn'
        rw [hconn] at hconn'
        cases hconn'
  | power action b =>
      obtain ⟨led, hok⟩ := power_spec locale h action b
      refine ⟨_, hok, by simp, ?_, iff_of_true h.follows trivial⟩
      intro _
      exact { h with }
  | configFile content =>
      refine ⟨_, rfl, by simp, ?_, iff_of_true h.follows trivial⟩
      intro _
      exact { h with }
  | notificationPosted n => exact halt.elim
  | notificationRemoved n => exact halt.elim

theorem receiverFollows_iff_first (h : ReceiverInv s) (halt : Alternates s e) :
    ReceiverFollows locale s e ↔ FirstConnection s e := by
  obtain ⟨s', hok, -, -, hiff⟩ := alternates_spec locale h halt
  rw [ReceiverFollows, hok]
  exact hiff

/-! ## Counting connections -/

/-- Connecting only a service that was not started means connecting at most once. -/
theorem everyStep_first_iff_count (h : ReceiverInv s)
    (halt : EveryStep (step locale) Alternates s evs) :
    EveryStep (step locale) FirstConnection s evs ↔
      evs.count .listenerConnected ≤ if s.wasServiceStarted then 0 else 1 := by
  induction evs generalizing s with
  | nil => simp
  | cons e evs ih =>
      obtain ⟨halt_e, halt_evs⟩ := everyStep_cons.mp halt
      obtain ⟨s', hok, hstarted, hkeep, -⟩ := alternates_spec locale h halt_e
      rw [everyStep_cons_ok hok, List.count_cons]
      by_cases he : e = .listenerConnected
      · subst he
        by_cases hs : s.wasServiceStarted
        · -- a second connection, and none was left
          simp [FirstConnection, hs]
        · have hfirst : FirstConnection s .listenerConnected := by simpa [FirstConnection] using hs
          rw [ih (hkeep hfirst) (halt_evs s' hok), hstarted]
          simp [hfirst, hs]
      · have hfirst : FirstConnection s e := by
          cases e with
          | listenerConnected => exact absurd rfl he
          | _ => trivial
        rw [ih (hkeep hfirst) (halt_evs s' hok), hstarted]
        simp [hfirst, he]

/-- **In a run of alternating connects and disconnects, the receiver is registered exactly while the
listener is connected, and never unregistered twice, if and only if the listener is connected at
most once.** -/
theorem receiver_follows_iff (locale : DefaultLocale) (d : Device) (evs : List Event)
    (halt : EveryStep (step locale) Alternates (.created d) evs) :
    EveryStep (step locale) (ReceiverFollows locale) (.created d) evs ↔
      evs.count .listenerConnected ≤ 1 := by
  have hinv := receiverInv_created d
  have hiff : EveryStep (step locale) (ReceiverFollows locale) (.created d) evs ↔
      EveryStep (step locale) FirstConnection (.created d) evs := by
    refine everyStep_iff (P := ReceiverInv) ?_ ?_ hinv halt
    · intro s e s' h halt hfirst hok
      obtain ⟨s'', hok'', -, hkeep, -⟩ := alternates_spec locale h halt
      rw [show s' = s'' from Except.ok.inj (hok.symm.trans hok'')]
      exact hkeep hfirst
    · intro s e h halt
      exact receiverFollows_iff_first h halt
  rw [hiff, everyStep_first_iff_count hinv halt]
  rfl

/-- Connected, disconnected, connected again: the receiver is not registered the second time. -/
theorem reconnected_without_receiver :
    ¬ EveryStep (step .ascii) (ReceiverFollows .ascii) (.created (.withConfig ""))
      [.listenerConnected, .listenerDisconnected, .listenerConnected] := by
  decide +kernel

theorem receiver_follows_iff_one_cycle :
    EveryStep (step .ascii) Alternates (.created (.withConfig ""))
      [.listenerConnected, .listenerDisconnected] ∧
    (EveryStep (step .ascii) (ReceiverFollows .ascii) (.created (.withConfig ""))
      [.listenerConnected, .listenerDisconnected] ↔
    [Event.listenerConnected, .listenerDisconnected].count .listenerConnected ≤ 1) := by
  have halt : EveryStep (step .ascii) Alternates (.created (.withConfig ""))
      [.listenerConnected, .listenerDisconnected] := by decide +kernel
  exact ⟨halt, receiver_follows_iff _ _ _ halt⟩

end VendorRs.LedLightManager
