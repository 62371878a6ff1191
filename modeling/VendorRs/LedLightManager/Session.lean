import VendorRs.LedLightManager.Tracking

/-!
# The LED shows what the state calls for

One session of the service: from its first `onListenerConnected` to before it is disconnected. Each
handler issues a LED command in some of its branches only, and relies on the others having left the
LED right. `Session` is the invariant that makes this add up, and `session_coherent` the result:
after every callback the last command is that of the last tracked entry, or, when nothing is
tracked, the one the power state calls for.
-/

namespace VendorRs.LedLightManager

open Java Runs

variable {locale : DefaultLocale} {s s' : State} {e : Event} {n : StatusBarNotification}
  {rules : List Rule} {es : List Entry}

/-- The last `setColor` command issued. The LED starts off, which counts as a command. -/
def lastCommand (s : State) : Command := s.commands.getLast?.getD .off

/-- What the power state calls for: green if plugged and full, yellow if plugged, else off. -/
def idleCommand (b : Battery) : Command :=
  if isPowerConnected b then if isBatteryFull b then .green else .yellow else .off

/-- What the LED should show: the last tracked entry, if there is one. -/
def shownCommand (s : State) : Command :=
  match s.tracked.rows.getLast? with
  | some x => x.command
  | none => idleCommand s.battery

/-- The callback returns, and the last command issued is then the one to be shown. -/
def CoherentAfter (locale : DefaultLocale) (s : State) (e : Event) : Prop :=
  ∃ s', step locale s e = .ok s' ∧ lastCommand s' = shownCommand s'

/-- What a session consists of. The listener is connected once and not disconnected; a post of a
configured package selects a rule whose colour and durations parse; the device is plugged after
`POWER_CONNECTED`, unplugged after `POWER_DISCONNECTED`, and a `BATTERY_CHANGED` alone changes
neither. -/
def SessionStep (locale : DefaultLocale) (s : State) : Event → Prop
  | .listenerConnected => s.wasServiceStarted = false
  | .listenerDisconnected => False
  | .notificationPosted (some n) => n.packageName ∈ (loadConfig s).rules.enabledApps →
      ∃ r ∈ selectRule locale n (loadConfig s).rules.rows, r.command.Parses
  | .power .powerConnected b => isPowerConnected b = true
  | .power .powerDisconnected b => isPowerConnected b = false
  | .power .batteryChanged b => isPowerConnected b = isPowerConnected s.battery
  | .notificationPosted none | .notificationRemoved _ | .configFile _ => True

instance (locale : DefaultLocale) (s : State) : ∀ e, Decidable (SessionStep locale s e)
  | .listenerConnected => inferInstanceAs (Decidable (_ = _))
  | .listenerDisconnected => inferInstanceAs (Decidable False)
  | .notificationPosted (some _) => inferInstanceAs (Decidable (_ → _))
  | .power .powerConnected _ | .power .powerDisconnected _ | .power .batteryChanged _ =>
      inferInstanceAs (Decidable (_ = _))
  | .notificationPosted none | .notificationRemoved _ | .configFile _ =>
      inferInstanceAs (Decidable True)

/-- The invariant of a connected session. -/
structure Session (s : State) : Prop where
  inStep : InStep s
  started : s.wasServiceStarted = true
  registered : s.mPowerReceiver = true
  enabled : s.disableRgb = "1"
  coherent : lastCommand s = shownCommand s

/-! ## Commands and what they leave shown -/

theorem getLast?_chargingCommands (cs : List Command) (b : Battery) :
    (cs ++ chargingCommands b).getLast?.getD .off =
      if isPowerConnected b then idleCommand b else cs.getLast?.getD .off := by
  unfold chargingCommands idleCommand
  by_cases hplug : isPowerConnected b
  · by_cases hfull : isBatteryFull b <;> simp [hplug, hfull]
  · simp [hplug]

theorem shownCommand_of_empty (h : s.tracked = .ofEntries []) :
    shownCommand s = idleCommand s.battery := by
  simp [shownCommand, h]

theorem shownCommand_of_last {x : Entry} (h : s.tracked = .ofEntries es)
    (hlast : es.getLast? = some x) : shownCommand s = x.command := by
  simp [shownCommand, h, hlast]

theorem isEmpty_currentEnabledApps (h : s.tracked = .ofEntries es) :
    s.tracked.currentEnabledApps.isEmpty = es.isEmpty := by
  rw [h]
  exact List.isEmpty_map

theorem isEmpty_of_last {x : Entry} (h : es.getLast? = some x) : es.isEmpty = false := by
  cases es with
  | nil => cases h
  | cons => rfl

/-- A state that differs only in the configuration shows the same. -/
theorem Session.loadConfig (h : Session s) : Session (loadConfig s) := by
  obtain ⟨table, loaded, settings, hload, htable⟩ := loadConfig_spec s
  have hstep := h.inStep.loadConfig
  rw [hload] at hstep ⊢
  exact { h with inStep := hstep }

/-! ## The handlers -/

/-- After `chargeIfIdle` the LED is right, provided it was right or something is to be shown. -/
theorem chargeIfIdle_coherent (hs : s.tracked = .ofEntries es)
    (h : es = [] → isPowerConnected s.battery = false → lastCommand s = .off)
    (hlast : ∀ x, es.getLast? = some x → lastCommand s = x.command) :
    ∃ led, chargeIfIdle s = .ok (s.withLed led) ∧
      lastCommand (s.withLed led) = shownCommand (s.withLed led) := by
  obtain ⟨led, hcharge, hcmds⟩ := chargeIfIdle_spec s
  refine ⟨led, hcharge, ?_⟩
  rw [lastCommand, State.withLed_commands, hcmds, isEmpty_currentEnabledApps hs]
  cases hx : es.getLast? with
  | none =>
      have hnil : es = [] := List.getLast?_eq_none_iff.mp hx
      subst hnil
      rw [shownCommand_of_empty (s := s.withLed led) hs, State.withLed_battery]
      simp only [List.isEmpty_nil, if_true]
      rw [getLast?_chargingCommands]
      by_cases hplug : isPowerConnected s.battery
      · simp [hplug]
      · have hoff := h rfl (by simpa using hplug)
        rw [lastCommand] at hoff
        simp [hplug, hoff, idleCommand]
  | some x =>
      rw [shownCommand_of_last (s := s.withLed led) hs hx, isEmpty_of_last hx]
      simpa [lastCommand] using hlast x hx

theorem session_connected (locale : DefaultLocale) (d : Device) :
    ∃ s', step locale (.created d) .listenerConnected = .ok s' ∧ Session s' := by
  obtain ⟨table, loaded, settings, led, hconn, hcmds, htable⟩ :=
    onListenerConnected_spec (.created d)
  refine ⟨_, hconn, ?_⟩
  constructor
  case inStep => exact ⟨htable [] rfl, [], rfl, by simp⟩
  case started => rfl
  case registered => rfl
  case enabled => rfl
  case coherent =>
    rw [lastCommand, State.withLed_commands, hcmds, shownCommand_of_empty (by rfl)]
    show ([] ++ chargingCommands d.battery).getLast?.getD .off = idleCommand d.battery
    rw [getLast?_chargingCommands]
    by_cases hplug : isPowerConnected d.battery
    · simp [hplug]
    · simp [hplug, idleCommand]

theorem session_posted (h : Session s)
    (hsel : SessionStep locale s (.notificationPosted (some n))) :
    ∃ s', getNotificationAndSetLed locale s n = .ok s' ∧ Session s' := by
  have hload := h.loadConfig
  obtain ⟨rules, hrules⟩ := hload.inStep.rules
  obtain ⟨es, hes, hwf⟩ := hload.inStep.entries
  by_cases hpkg : n.packageName ∈ rules.map Rule.app
  · obtain ⟨r, hr, hparse⟩ := hsel (by rw [hrules]; exact hpkg)
    rw [hrules, RuleTable.rows_ofRules, Option.mem_def] at hr
    obtain ⟨led, hcolor, hcmds⟩ := setColor_of_parses (addApp (loadConfig s) n) hparse
    have htracked := addInfos_addApp (n := n) hes led r
    refine ⟨addInfos ((addApp (loadConfig s) n).withLed led) r.string r.command, ?_, ?_⟩
    · rw [getNotificationAndSetLed_spec hrules hpkg, hr, postRule, hcolor]
      rfl
    · exact { hload with
        inStep := ⟨⟨rules, hrules⟩, _, htracked, wellFormed_concat hwf hparse⟩
        coherent := by
          rw [shownCommand_of_last htracked (List.getLast?_concat ..)]
          show led.commands.getLast?.getD .off = r.command
          rw [hcmds, List.getLast?_concat, Option.getD_some] }
  · exact ⟨_, getNotificationAndSetLed_of_not_mem hrules hpkg, hload⟩

/-- Of the entries that are kept the last one is shown; if there is none, the LED goes off. -/
theorem showLatest_shows {kept : List Entry} {s₁ : State}
    (hok : showLatest { s with tracked := .ofEntries kept } kept = .ok s₁) :
    s₁.wasServiceStarted = s.wasServiceStarted ∧ s₁.mPowerReceiver = s.mPowerReceiver ∧
      s₁.disableRgb = s.disableRgb ∧ s₁.tracked = .ofEntries kept ∧
      lastCommand s₁ = (kept.getLast?.map Entry.command).getD .off := by
  cases hlast : kept.getLast? with
  | none =>
      have hnil : kept = [] := List.getLast?_eq_none_iff.mp hlast
      obtain ⟨led, hoff, hcmds⟩ := disableLed_spec { s with tracked := .ofEntries kept }
      rw [showLatest, hlast] at hok
      rw [hoff] at hok
      cases hok
      refine ⟨rfl, rfl, rfl, ?_, ?_⟩
      · rw [hnil]
        rfl
      · rw [lastCommand, State.withLed_commands, hcmds, List.getLast?_concat]
        rfl
  | some x =>
      rw [showLatest, hlast] at hok
      obtain ⟨-, led, rfl, hcmds⟩ := setColor_spec hok
      refine ⟨rfl, rfl, rfl, rfl, ?_⟩
      rw [lastCommand, State.withLed_commands, hcmds, List.getLast?_concat]
      rfl

/-- After a removal the LED is right, and the flags of the session are as they were. -/
theorem removed_coherent (h : Session s) (hok : onNotificationRemoved locale s n = .ok s') :
    s'.wasServiceStarted = true ∧ s'.mPowerReceiver = true ∧ s'.disableRgb = "1" ∧
      lastCommand s' = shownCommand s' := by
  obtain ⟨es, hes, -⟩ := h.inStep.entries
  have hcoherent := h.coherent
  rw [onNotificationRemoved_spec hes] at hok
  split at hok
  · -- the package is tracked: the last kept entry is shown, or the LED goes off first
    generalize (es.filter fun e => !e.matches locale n) = kept at hok
    obtain ⟨s₁, h₁, hok⟩ := bind_eq_ok.mp hok
    obtain ⟨hstarted, hregistered, henabled, htracked, hlast⟩ := showLatest_shows h₁
    have hdark : kept = [] → isPowerConnected s₁.battery = false → lastCommand s₁ = .off := by
      rintro rfl -
      exact hlast
    have hlatest : ∀ x, kept.getLast? = some x → lastCommand s₁ = x.command := by
      intro x hx
      rw [hlast, hx]
      rfl
    obtain ⟨led, hcharge, hshown⟩ := chargeIfIdle_coherent htracked hdark hlatest
    rw [hcharge] at hok
    cases hok
    exact ⟨hstarted.trans h.started, hregistered.trans h.registered, henabled.trans h.enabled,
      hshown⟩
  · -- the package is not tracked: the LED was right, and stays so
    have hdark : es = [] → isPowerConnected s.battery = false → lastCommand s = .off := by
      intro hnil hplug
      rw [hcoherent, shownCommand_of_empty (by rw [hes, hnil]), idleCommand, hplug]
      rfl
    have hlatest : ∀ x, es.getLast? = some x → lastCommand s = x.command := by
      intro x hx
      rw [hcoherent, shownCommand_of_last hes hx]
    obtain ⟨led, hcharge, hshown⟩ := chargeIfIdle_coherent hes hdark hlatest
    rw [hcharge] at hok
    cases hok
    exact ⟨h.started, h.registered, h.enabled, hshown⟩

theorem session_removed (h : Session s) :
    ∃ s', onNotificationRemoved locale s n = .ok s' ∧ Session s' := by
  obtain ⟨s', hok⟩ := onNotificationRemoved_returns locale n h.inStep
  obtain ⟨hstarted, hreg, hrgb, hcoherent⟩ := removed_coherent h hok
  exact ⟨s', hok, inStep_removed h.inStep hok, hstarted, hreg, hrgb, hcoherent⟩

/-- After a broadcast the LED is right, if it showed the last entry or nothing was tracked and the
broadcast's own commands are the right ones. -/
theorem onPowerReceive_coherent (action : PowerAction) (hs : s.tracked = .ofEntries es)
    (hrgb : s.disableRgb = "1") (hlast : ∀ x, es.getLast? = some x → lastCommand s = x.command)
    (hidle : es = [] → (s.commands ++ powerCommands s.battery action).getLast?.getD .off =
      idleCommand s.battery) :
    ∃ led, onPowerReceive s action = .ok (s.withLed led) ∧
      lastCommand (s.withLed led) = shownCommand (s.withLed led) := by
  obtain ⟨led, hrecv, hcmds⟩ := onPowerReceive_spec hrgb action
  refine ⟨led, hrecv, ?_⟩
  rw [lastCommand, State.withLed_commands, hcmds, isEmpty_currentEnabledApps hs]
  cases hx : es.getLast? with
  | none =>
      have hnil : es = [] := List.getLast?_eq_none_iff.mp hx
      rw [hnil, shownCommand_of_empty (s := s.withLed led) (by rw [← hnil]; exact hs)]
      exact hidle hnil
  | some x =>
      rw [shownCommand_of_last (s := s.withLed led) hs hx, isEmpty_of_last hx]
      simpa [lastCommand] using hlast x hx

/-- The commands of a broadcast of the session, when nothing is tracked. -/
theorem powerCommands_coherent (hidle : lastCommand s = idleCommand s.battery)
    {action : PowerAction} {b : Battery} (hpower : SessionStep locale s (.power action b)) :
    (s.commands ++ powerCommands b action).getLast?.getD .off = idleCommand b := by
  cases action with
  | powerConnected =>
      simp only [SessionStep] at hpower
      rw [powerCommands, getLast?_chargingCommands, if_pos hpower]
  | powerDisconnected =>
      simp only [SessionStep] at hpower
      rw [powerCommands, List.getLast?_concat, Option.getD_some, idleCommand, hpower]
      rfl
  | batteryChanged =>
      simp only [SessionStep] at hpower
      rw [powerCommands, getLast?_chargingCommands]
      by_cases hplug : isPowerConnected b
      · rw [if_pos hplug]
      · -- unplugged before and after: the LED was off, and nothing is issued
        rw [lastCommand] at hidle
        rw [if_neg hplug, hidle, idleCommand, idleCommand, ← hpower, if_neg hplug, if_neg hplug]

theorem session_power (h : Session s) {action : PowerAction} {b : Battery}
    (hpower : SessionStep locale s (.power action b)) :
    ∃ s', step locale s (.power action b) = .ok s' ∧ Session s' := by
  obtain ⟨es, hes, -⟩ := h.inStep.entries
  have hlatest : ∀ x, es.getLast? = some x → lastCommand s = x.command := by
    intro x hx
    rw [h.coherent, shownCommand_of_last hes hx]
  have hidle : es = [] →
      (s.commands ++ powerCommands b action).getLast?.getD .off = idleCommand b := by
    intro hnil
    apply powerCommands_coherent ?_ hpower
    rw [h.coherent, shownCommand_of_empty (by rw [hes, hnil])]
  obtain ⟨led, hrecv, hshown⟩ := onPowerReceive_coherent (s := { s with battery := b })
    action hes h.enabled hlatest hidle
  refine ⟨State.withLed { s with battery := b } led, ?_, ?_⟩
  · show (if s.mPowerReceiver then onPowerReceive { s with battery := b } action else _) = _
    rw [if_pos h.registered, hrecv]
  · exact { h with
      inStep := { h.inStep with }
      coherent := hshown }

/-- **Every callback of a session returns and keeps the invariant.** -/
theorem step_session (h : Session s) (he : SessionStep locale s e) :
    ∃ s', step locale s e = .ok s' ∧ Session s' := by
  cases e with
  | listenerConnected =>
      simp only [SessionStep, h.started] at he
      cases he
  | listenerDisconnected => exact he.elim
  | notificationPosted n =>
      cases n with
      | none => exact ⟨s, rfl, h⟩
      | some n => exact session_posted h he
  | notificationRemoved n => exact session_removed h
  | power action b => exact session_power h he
  | configFile content => exact ⟨_, rfl, { h with inStep := { h.inStep with } }⟩

/-- **After every callback of a session the last LED command is the one the state calls for.** -/
theorem session_coherent (locale : DefaultLocale) (d : Device) (evs : List Event)
    (hsession : EveryStep (step locale) (SessionStep locale) (.created d)
      (.listenerConnected :: evs)) :
    EveryStep (step locale) (CoherentAfter locale) (.created d) (.listenerConnected :: evs) := by
  obtain ⟨s₁, hconn, hs₁⟩ := session_connected locale d
  rw [everyStep_cons_ok hconn] at hsession ⊢
  refine ⟨⟨s₁, hconn, hs₁.coherent⟩, ?_⟩
  refine EveryStep.imp (P := Session) ?_ ?_ hs₁ hsession.2
  · intro s e s' hs he hok
    obtain ⟨s'', hok'', hs''⟩ := step_session hs he
    rw [show s' = s'' from Except.ok.inj (hok.symm.trans hok'')]
    exact hs''
  · intro s e hs he
    obtain ⟨s', hok, hs'⟩ := step_session hs he
    exact ⟨s', hok, hs'.coherent⟩

/-- A session with a post, a charger plugged in and out while it is tracked, and its removal. -/
def chargedRun : List Event :=
  [.listenerConnected, .notificationPosted (some (appNotification none "Alice")),
   .power .powerConnected (.percent 50 1), .power .batteryChanged (.percent 100 1),
   .power .powerDisconnected (.percent 100 0),
   .notificationRemoved (appNotification none "Alice")]

theorem session_coherent_chargedRun :
    EveryStep (step .ascii) (SessionStep .ascii) (.created (.withConfig "app,alice,FF0000"))
      chargedRun ∧
    EveryStep (step .ascii) (CoherentAfter .ascii) (.created (.withConfig "app,alice,FF0000"))
      chargedRun := by
  have hsession : EveryStep (step .ascii) (SessionStep .ascii)
      (.created (.withConfig "app,alice,FF0000")) chargedRun := by decide +kernel
  exact ⟨hsession, session_coherent _ _ _ hsession⟩

end VendorRs.LedLightManager
