import VendorRs.Lib.Runs
import VendorRs.LedLightManager.Spec

/-!
# The tracked notifications over a whole run

Two questions about the seven `currentEnabled*` lists, both answered for runs of any length from a
freshly created service:

* **Do they stay in step?** A post appends the package and the id *before* it looks for a rule, and
  the other five only when it found one. So the lists have the same length after every callback
  exactly when no post of a configured package comes away without a rule
  (`aligned_iff_everyPostSelects`).
* **Do they mirror the active notifications?** An entry is found again by package, id, and the
  title the notification has when it is removed, not by its key. `removals_exact_iff` gives the
  exact condition under which removals nevertheless delete the entries of the removed key and no
  others.

Both rest on one invariant, `InStep`, and on `step_inStep`, which says once what keeps it.
-/

namespace VendorRs.LedLightManager

open Java Runs

variable {locale : DefaultLocale} {s s' : State} {e : Event} {n : StatusBarNotification}
  {rules : List Rule} {es : List Entry}

/-- The seven lists have the same length. -/
def TrackedTable.Aligned (t : TrackedTable) : Prop :=
  t.currentEnabledID.length = t.currentEnabledApps.length ∧
  t.currentEnabledStringForApps.length = t.currentEnabledApps.length ∧
  t.currentEnabledColorsForApps.length = t.currentEnabledApps.length ∧
  t.currentEnabledBlinkForApps.length = t.currentEnabledApps.length ∧
  t.currentEnabledOnMsForApps.length = t.currentEnabledApps.length ∧
  t.currentEnabledOffMsForApps.length = t.currentEnabledApps.length

/-- Some rule of the notification's package has an empty string or one its title contains. -/
def RuleTable.Selects (locale : DefaultLocale) (t : RuleTable) (n : StatusBarNotification) : Prop :=
  ∃ i ∈ indexOfMultiple t.enabledApps n.packageName, ∃ string ∈ t.enabledStringForApps[i]?,
    string.isEmpty ∨ titleContains locale n.title string

instance (t : TrackedTable) : Decidable t.Aligned := inferInstanceAs (Decidable (_ ∧ _))

/-- If the event is the post of a notification of a configured package, it selects a rule, the
configuration being the one the post loads. -/
def PostSelects (locale : DefaultLocale) (s : State) : Event → Prop
  | .notificationPosted (some n) =>
      n.packageName ∈ (loadConfig s).rules.enabledApps → (loadConfig s).rules.Selects locale n
  | _ => True

instance (locale : DefaultLocale) (t : RuleTable) (n : StatusBarNotification) :
    Decidable (t.Selects locale n) :=
  List.decidableBEx _ _

instance (locale : DefaultLocale) (s : State) : ∀ e, Decidable (PostSelects locale s e)
  | .notificationPosted (some _) => inferInstanceAs (Decidable (_ → _))
  | .notificationPosted none | .listenerConnected | .listenerDisconnected | .notificationRemoved _
  | .power _ _ | .configFile _ => inferInstanceAs (Decidable True)

/-! ## The invariant -/

/-- The row is of one notification: its package and id are those of the key that posted it, and its
command has parsed once before. -/
structure Entry.WellFormed (x : Entry) : Prop where
  app : x.app = x.postedBy.packageName
  id : x.id = x.postedBy.id
  parses : x.command.Parses

/-- Both tables are rows laid out in columns. -/
structure InStep (s : State) : Prop where
  rules : ∃ rules, s.rules = .ofRules rules
  entries : ∃ es, s.tracked = .ofEntries es ∧ ∀ x ∈ es, x.WellFormed

theorem inStep_created (d : Device) : InStep (State.created d) :=
  ⟨⟨[], rfl⟩, [], rfl, by simp⟩

theorem aligned_ofEntries (es : List Entry) : (TrackedTable.ofEntries es).Aligned := by
  simp [TrackedTable.Aligned, TrackedTable.ofEntries]

theorem InStep.aligned (h : InStep s) : s.tracked.Aligned := by
  obtain ⟨es, hes, -⟩ := h.entries
  rw [hes]
  exact aligned_ofEntries es

theorem mem_indexOfMultiple {α : Type} [DecidableEq α] {l : List α} {object : α} {i : Nat} :
    i ∈ indexOfMultiple l object ↔ l[i]? = some object := by
  simp only [indexOfMultiple, List.mem_filter, List.mem_range, decide_eq_true_eq,
    and_iff_right_iff_imp]
  exact fun h => (List.getElem?_eq_some_iff.mp h).1

theorem selects_ofRules : (RuleTable.ofRules rules).Selects locale n ↔
    ∃ r ∈ rules, r.app = n.packageName ∧ (r.string.isEmpty ∨ titleContains locale n.title r.string)
      := by
  simp only [RuleTable.Selects, RuleTable.ofRules, mem_indexOfMultiple, List.getElem?_map,
    Option.map_eq_some_iff, Option.mem_def]
  constructor
  · rintro ⟨i, ⟨r, hr, happ⟩, _, ⟨r', hr', rfl⟩, hsel⟩
    rw [hr, Option.some.injEq] at hr'
    subst hr'
    exact ⟨r, List.mem_of_getElem? hr, happ, hsel⟩
  · rintro ⟨r, hr, happ, hsel⟩
    obtain ⟨i, hi⟩ := List.getElem?_of_mem hr
    exact ⟨i, ⟨r, hi, happ⟩, r.string, ⟨r, hi, rfl⟩, hsel⟩

/-- `selectRule` finds a rule exactly when the table has one to select. -/
theorem isSome_selectRule :
    (selectRule locale n rules).isSome ↔ (RuleTable.ofRules rules).Selects locale n := by
  rw [selects_ofRules, selectRule]
  simp only [Option.isSome_or, Bool.or_eq_true, List.find?_isSome, List.mem_filter,
    decide_eq_true_eq, List.getLast?_isSome, ne_eq, List.filter_eq_nil_iff, not_forall, not_not,
    exists_prop, and_assoc]
  constructor
  · rintro (⟨r, hr, happ, hmatch⟩ | ⟨r, hr, happ, hempty⟩)
    · exact ⟨r, hr, happ, .inr (Bool.and_eq_true_iff.mp hmatch).1⟩
    · exact ⟨r, hr, happ, .inl hempty⟩
  · rintro ⟨r, hr, happ, hsel⟩
    by_cases hempty : r.string.isEmpty
    · exact .inr ⟨r, hr, happ, hempty⟩
    · refine .inl ⟨r, hr, happ, ?_⟩
      simp [Rule.matchesTitle, hempty, hsel.resolve_left hempty]

/-! ## What a step does to the entries -/

/-- Every entry a post adds is the whole row of the rule it selected. -/
theorem addInfos_addApp (hs : s.tracked = .ofEntries es) (led : Led) (r : Rule) :
    (addInfos ((addApp s n).withLed led) r.string r.command).tracked =
      .ofEntries (es ++ [.ofPost n r]) := by
  simp [addInfos, addApp, State.withLed, hs, TrackedTable.ofEntries, Entry.ofPost, Rule.command]

/-- A post on tables in step: nothing, a new entry, or, without a rule, two columns of one. -/
theorem posted_cases (hrules : (loadConfig s).rules = .ofRules rules)
    (h : getNotificationAndSetLed locale s n = .ok s') :
    (n.packageName ∉ rules.map Rule.app ∧ s' = loadConfig s) ∨
    (∃ r led, selectRule locale n rules = some r ∧ r.command.Parses ∧
      s' = addInfos ((addApp (loadConfig s) n).withLed led) r.string r.command ∧
      led.commands = (loadConfig s).commands ++ [r.command]) ∨
    (n.packageName ∈ rules.map Rule.app ∧ selectRule locale n rules = none ∧
      s' = addApp (loadConfig s) n) := by
  by_cases hpkg : n.packageName ∈ rules.map Rule.app
  · rw [getNotificationAndSetLed_spec hrules hpkg] at h
    cases hsel : selectRule locale n rules with
    | none =>
        rw [hsel] at h
        cases h
        exact .inr (.inr ⟨hpkg, rfl, rfl⟩)
    | some r =>
        rw [hsel, postRule] at h
        cases hcolor : setColor (addApp (loadConfig s) n) r.command with
        | error x => rw [hcolor] at h; cases h
        | ok s₁ =>
            rw [hcolor] at h
            cases h
            obtain ⟨hparse, led, rfl, hcmds⟩ := setColor_spec hcolor
            exact .inr (.inl ⟨r, led, rfl, hparse, rfl, hcmds⟩)
  · rw [getNotificationAndSetLed_of_not_mem hrules hpkg] at h
    cases h
    exact .inl ⟨hpkg, rfl⟩

theorem InStep.loadConfig (h : InStep s) : InStep (loadConfig s) := by
  obtain ⟨rules, hrules⟩ := h.rules
  obtain ⟨table, loaded, settings, hload, htable⟩ := loadConfig_spec s
  rw [hload]
  exact ⟨htable rules hrules, h.entries⟩

/-- A command, and nothing else, leaves the tables in step. -/
theorem InStep.withLed (h : InStep s) (led : Led) : InStep (s.withLed led) := { h with }

theorem inStep_of_empty (hrules : s.rules = .empty) (htracked : s.tracked = .empty) : InStep s :=
  ⟨⟨[], hrules⟩, [], htracked, by simp⟩

theorem inStep_onListenerConnected (h : InStep s) (hok : onListenerConnected s = .ok s') :
    InStep s' := by
  obtain ⟨rules, hrules⟩ := h.rules
  obtain ⟨table, loaded, settings, led, hconn, -, htable⟩ := onListenerConnected_spec s
  rw [hconn] at hok
  cases hok
  exact ⟨htable rules hrules, h.entries⟩

theorem inStep_onListenerDisconnected (hok : onListenerDisconnected s = .ok s') : InStep s' := by
  rw [onListenerDisconnected] at hok
  cases hreg : s.mPowerReceiver with
  | true =>
      obtain ⟨led, hclose, -⟩ :=
        onClose_of_registered (s := { s with isListenerConnected := false })
        hreg
      rw [hclose] at hok
      cases hok
      exact inStep_of_empty rfl rfl
  | false =>
      obtain ⟨s₁, hclose⟩ := onClose_of_not_registered
        (s := { s with isListenerConnected := false }) hreg
      rw [hclose] at hok
      cases hok

theorem inStep_onPowerReceive (h : InStep s) {action : PowerAction}
    (hok : onPowerReceive s action = .ok s') : InStep s' := by
  by_cases hrgb : s.disableRgb = "1"
  · obtain ⟨led, hpower, -⟩ := onPowerReceive_spec hrgb action
    rw [hpower] at hok
    cases hok
    exact h.withLed led
  · unfold onPowerReceive unregisterPowerReceiver at hok
    rw [if_pos hrgb] at hok
    split at hok
    · cases hok
      exact { h with }
    · cases hok

theorem inStep_removed (h : InStep s) (hok : onNotificationRemoved locale s n = .ok s') :
    InStep s' := by
  obtain ⟨es, hes, hwf⟩ := h.entries
  obtain ⟨htracked, hrules⟩ := onNotificationRemoved_entries hes hok
  refine ⟨?_, _, htracked, ?_⟩
  · rcases hrules with hrules | hrules
    · rw [hrules]
      exact h.rules
    · exact ⟨[], hrules⟩
  · intro x hx
    exact hwf x (List.mem_filter.mp hx).1

/-- The entry of a rule that parses is well formed. -/
theorem wellFormed_concat {r : Rule} (hwf : ∀ x ∈ es, x.WellFormed) (hr : r.command.Parses) :
    ∀ x ∈ es ++ [.ofPost n r], x.WellFormed := by
  intro x hx
  rcases List.mem_append.mp hx with hx | hx
  · exact hwf x hx
  · rw [List.mem_singleton.mp hx]
    exact ⟨rfl, rfl, hr⟩

theorem inStep_posted (h : InStep s) (hsel : PostSelects locale s (.notificationPosted (some n)))
    (hok : getNotificationAndSetLed locale s n = .ok s') : InStep s' := by
  obtain ⟨rules, hrules⟩ := h.loadConfig.rules
  obtain ⟨es, hes, hwf⟩ := h.loadConfig.entries
  rcases posted_cases hrules hok with ⟨-, rfl⟩ | ⟨r, led, -, hr, rfl, -⟩ | ⟨hpkg, hnone, rfl⟩
  · exact h.loadConfig
  · exact ⟨⟨rules, hrules⟩, es ++ [.ofPost n r], addInfos_addApp hes led r,
      wellFormed_concat hwf hr⟩
  · -- no rule was selected, which the hypothesis excludes
    have hsome : (selectRule locale n rules).isSome := by
      rw [isSome_selectRule, ← hrules]
      apply hsel
      rw [hrules]
      exact hpkg
    rw [hnone] at hsome
    cases hsome

/-- **Steps keep the tables in step**, as long as posts of configured packages select a rule. -/
theorem step_inStep (h : InStep s) (hsel : PostSelects locale s e)
    (hok : step locale s e = .ok s') : InStep s' := by
  cases e with
  | listenerConnected => exact inStep_onListenerConnected h hok
  | listenerDisconnected => exact inStep_onListenerDisconnected hok
  | notificationPosted n =>
      cases n with
      | none =>
          cases hok
          exact h
      | some n => exact inStep_posted h hsel hok
  | notificationRemoved n => exact inStep_removed h hok
  | power action battery =>
      simp only [step] at hok
      have hbattery : InStep { s with battery := battery } := { h with }
      split at hok
      · exact inStep_onPowerReceive hbattery hok
      · cases hok
        exact hbattery
  | configFile content =>
      cases hok
      exact { h with }

/-! ## The lists stay in step exactly when every post selects a rule -/

/-- After the step, the seven lists have the same length. -/
def AlignedAfter (locale : DefaultLocale) (s : State) (e : Event) : Prop :=
  ∀ s', step locale s e = .ok s' → s'.tracked.Aligned

instance (locale : DefaultLocale) (s : State) (e : Event) : Decidable (AlignedAfter locale s e) :=
  inferInstanceAs (Decidable (∀ _, _ → _))

/-- A post that selects no rule returns normally, and leaves the lists of different lengths. -/
theorem not_alignedAfter_of_not_selects (h : InStep s)
    (hpkg : n.packageName ∈ (loadConfig s).rules.enabledApps)
    (hsel : ¬ (loadConfig s).rules.Selects locale n) :
    ¬ AlignedAfter locale s (.notificationPosted (some n)) := by
  obtain ⟨rules, hrules⟩ := h.loadConfig.rules
  obtain ⟨es, hes, -⟩ := h.loadConfig.entries
  have hnone : selectRule locale n rules = none := by
    rw [hrules, ← isSome_selectRule] at hsel
    exact Option.not_isSome_iff_eq_none.mp hsel
  have hpost : step locale s (.notificationPosted (some n)) = .ok (addApp (loadConfig s) n) := by
    show getNotificationAndSetLed locale s n = _
    rw [getNotificationAndSetLed_spec hrules (by rw [hrules] at hpkg; exact hpkg), hnone]
    rfl
  intro haligned
  have hlength := (haligned _ hpost).2.1
  simp [addApp, hes, TrackedTable.ofEntries] at hlength

theorem alignedAfter_iff_postSelects (h : InStep s) :
    AlignedAfter locale s e ↔ PostSelects locale s e := by
  constructor
  · intro haligned
    match e with
    | .notificationPosted (some n) =>
        intro hpkg
        by_contra hsel
        exact not_alignedAfter_of_not_selects h hpkg hsel haligned
    | .notificationPosted none | .listenerConnected | .listenerDisconnected
    | .notificationRemoved _ | .power _ _ | .configFile _ => trivial
  · intro hsel s' hok
    exact (step_inStep h hsel hok).aligned

theorem everyStep_alignedAfter_iff {evs : List Event} (h : InStep s) :
    EveryStep (step locale) (AlignedAfter locale) s evs ↔
      EveryStep (step locale) (PostSelects locale) s evs := by
  apply everyStep_iff (P := InStep) (B := fun _ _ => True)
  · intro s e s' h _ hsel hok
    exact step_inStep h hsel hok
  · intro s e h _
    exact alignedAfter_iff_postSelects h
  · exact h
  · exact everyStep_true

/-- **The seven lists have the same length after every callback of a run exactly when every post of
a configured package selects a rule.** -/
theorem aligned_iff_everyPostSelects (locale : DefaultLocale) (d : Device) (evs : List Event) :
    EveryStep (step locale) (AlignedAfter locale) (.created d) evs ↔
      EveryStep (step locale) (PostSelects locale) (.created d) evs :=
  everyStep_alignedAfter_iff (inStep_created d)

/-- A battery whose level is given in percent. -/
def Battery.percent (level plugged : Int) : Battery := ⟨level, 100, plugged, by decide⟩

/-- An unplugged device on which the configuration file has the given text. -/
def Device.withConfig (text : String) : Device :=
  ⟨"1", ⟨"", "", "", ""⟩, some text, none, .percent 50 0⟩

/-- A notification of package `app` with id 1. -/
def appNotification (tag : Option String) (title : String) : StatusBarNotification :=
  ⟨⟨"app", tag, 1, 0⟩, some title⟩

/-- One rule `foo` for the package, one notification titled `bar`: the lists drift apart. -/
theorem lists_drift_without_rule :
    ¬ EveryStep (step .ascii) (AlignedAfter .ascii) (.created (.withConfig "app,foo,FF0000"))
      [.listenerConnected, .notificationPosted (some (appNotification none "bar"))] := by
  decide +kernel

/-! ## When removals delete the entries of the removed key, and only those -/

/-- From `s` to `s'`, exactly the entries posted under `n`'s key are gone, and the others are still
there, in their order. -/
def RemovesExactly (n : StatusBarNotification) (s s' : State) : Prop :=
  s'.tracked.rows = s.tracked.rows.filter fun x => x.postedBy ≠ n.toKey

/-- If the event is a removal, it removes exactly the entries of the removed key. -/
def RemovalExact (locale : DefaultLocale) (s : State) : Event → Prop
  | .notificationRemoved n =>
      ∀ s', step locale s (.notificationRemoved n) = .ok s' → RemovesExactly n s s'
  | _ => True

/-- The rule string the entry was posted under is empty or in the title `n` has now. -/
def Entry.StringFits (locale : DefaultLocale) (n : StatusBarNotification) (x : Entry) : Prop :=
  x.string.isEmpty ∨ titleContains locale n.title x.string

/-- If the event is the removal of `n`, every entry posted under its key has a string that still
fits its title, and no entry of the same package and id but another tag or user has one. -/
def RemovalFits (locale : DefaultLocale) (s : State) : Event → Prop
  | .notificationRemoved n => ∀ x ∈ s.tracked.rows,
      (x.postedBy = n.toKey → x.StringFits locale n) ∧
      (x.postedBy ≠ n.toKey → x.postedBy.packageName = n.packageName → x.postedBy.id = n.id →
        ¬ x.StringFits locale n)
  | _ => True

instance (locale : DefaultLocale) (s : State) : ∀ e, Decidable (RemovalExact locale s e)
  | .notificationRemoved n =>
      have (s' : State) : Decidable (RemovesExactly n s s') := inferInstanceAs (Decidable (_ = _))
      inferInstanceAs (Decidable (∀ s', _ → RemovesExactly n s s'))
  | .notificationPosted _ | .listenerConnected | .listenerDisconnected | .power _ _
  | .configFile _ => inferInstanceAs (Decidable True)

/-- On tables in step, a removal always returns. -/
theorem onNotificationRemoved_returns (locale : DefaultLocale) (n : StatusBarNotification)
    (h : InStep s) :
    ∃ s', onNotificationRemoved locale s n = .ok s' := by
  obtain ⟨es, hes, hwf⟩ := h.entries
  rw [onNotificationRemoved_spec hes]
  split
  · generalize hkept : (es.filter fun e => !e.matches locale n) = kept
    have hlatest : ∃ s₁, showLatest { s with tracked := .ofEntries kept } kept = .ok s₁ := by
      unfold showLatest
      cases hlast : kept.getLast? with
      | none =>
          obtain ⟨led, hoff, -⟩ := disableLed_spec { s with tracked := .ofEntries kept }
          exact ⟨_, hoff⟩
      | some x =>
          have hx : x ∈ es := by
            have := List.mem_of_getLast? hlast
            rw [← hkept] at this
            exact (List.mem_filter.mp this).1
          obtain ⟨led, hcolor, -⟩ := setColor_of_parses { s with tracked := .ofEntries kept }
            (hwf x hx).parses
          exact ⟨_, hcolor⟩
    obtain ⟨s₁, hs₁⟩ := hlatest
    obtain ⟨led, hcharge, -⟩ := chargeIfIdle_spec s₁
    refine ⟨s₁.withLed led, ?_⟩
    simp only [hs₁, ok_bind, hcharge]
  · obtain ⟨led, hcharge, -⟩ := chargeIfIdle_spec s
    exact ⟨_, hcharge⟩

/-- Two filters of a list agree exactly when their tests agree on its members. -/
theorem filter_eq_filter_iff {α : Type} {p q : α → Bool} {l : List α} :
    l.filter p = l.filter q ↔ ∀ x ∈ l, p x = q x := by
  constructor
  · intro h x hx
    have hp : p x = true ↔ x ∈ l.filter p := by simp [hx]
    have hq : q x = true ↔ x ∈ l.filter q := by simp [hx]
    rw [Bool.eq_iff_iff, hp, hq, h]
  · exact List.filter_congr

/-- Which well-formed entries a removal matches, in terms of the keys that posted them. -/
theorem matches_iff (locale : DefaultLocale) (n : StatusBarNotification) {x : Entry}
    (hx : x.WellFormed) :
    x.matches locale n ↔ x.postedBy.packageName = n.packageName ∧ x.postedBy.id = n.id ∧
      x.StringFits locale n := by
  simp [Entry.matches, Entry.StringFits, hx.app, hx.id, and_assoc]

theorem removalExact_iff_fits (h : InStep s) :
    RemovalExact locale s e ↔ RemovalFits locale s e := by
  match e with
  | .notificationRemoved n =>
      obtain ⟨es, hes, hwf⟩ := h.entries
      obtain ⟨s', hok⟩ := onNotificationRemoved_returns locale n h
      have htracked := (onNotificationRemoved_entries hes hok).1
      have hexact : RemovalExact locale s (.notificationRemoved n) ↔ RemovesExactly n s s' := by
        constructor
        · intro hex
          exact hex s' hok
        · intro hex s'' hok''
          rw [show s'' = s' from Except.ok.inj (hok''.symm.trans hok)]
          exact hex
      rw [hexact, RemovesExactly, htracked, hes, TrackedTable.rows_ofEntries,
        TrackedTable.rows_ofEntries, filter_eq_filter_iff, RemovalFits, hes,
        TrackedTable.rows_ofEntries]
      refine forall₂_congr fun x hx => ?_
      have hmatch := matches_iff locale n (hwf x hx)
      by_cases hkey : x.postedBy = n.toKey
      · simpa [hkey] using hmatch
      · cases hm : x.matches locale n <;> simp_all
  | .notificationPosted _ | .listenerConnected | .listenerDisconnected | .power _ _
  | .configFile _ => exact Iff.rfl

theorem everyStep_removalExact_iff {evs : List Event} (h : InStep s)
    (hsel : EveryStep (step locale) (PostSelects locale) s evs) :
    EveryStep (step locale) (RemovalExact locale) s evs ↔
      EveryStep (step locale) (RemovalFits locale) s evs := by
  apply everyStep_iff (P := InStep) (B := PostSelects locale)
  · intro s e s' h hsel _ hok
    exact step_inStep h hsel hok
  · intro s e h _
    exact removalExact_iff_fits h
  · exact h
  · exact hsel

/-- **In a run whose posts all select a rule, every removal deletes exactly the entries of the
removed key if and only if at each removal the strings of those entries, and of no others with the
same package and id, fit the title.** -/
theorem removals_exact_iff (locale : DefaultLocale) (d : Device) (evs : List Event)
    (hsel : EveryStep (step locale) (PostSelects locale) (.created d) evs) :
    EveryStep (step locale) (RemovalExact locale) (.created d) evs ↔
      EveryStep (step locale) (RemovalFits locale) (.created d) evs :=
  everyStep_removalExact_iff (inStep_created d) hsel

/-- The same key posted as `Alice`, then as `Bob`, under one rule for each name. -/
def retitledRun : List Event :=
  [.listenerConnected, .notificationPosted (some (appNotification none "Alice")),
   .notificationPosted (some (appNotification none "Bob")),
   .notificationRemoved (appNotification none "Bob")]

/-- The removal finds the entry of `Bob` and leaves that of `Alice`, which the same notification
posted. -/
theorem removal_leaves_old_title :
    ¬ EveryStep (step .ascii) (RemovalExact .ascii)
      (.created (.withConfig "app,alice,FF0000\napp,bob,00FF00")) retitledRun := by
  decide +kernel

theorem removals_exact_iff_retitledRun :
    EveryStep (step .ascii) (PostSelects .ascii)
      (.created (.withConfig "app,alice,FF0000\napp,bob,00FF00")) retitledRun ∧
    (EveryStep (step .ascii) (RemovalExact .ascii)
      (.created (.withConfig "app,alice,FF0000\napp,bob,00FF00")) retitledRun ↔
    EveryStep (step .ascii) (RemovalFits .ascii)
      (.created (.withConfig "app,alice,FF0000\napp,bob,00FF00")) retitledRun) := by
  have hsel : EveryStep (step .ascii) (PostSelects .ascii)
      (.created (.withConfig "app,alice,FF0000\napp,bob,00FF00")) retitledRun := by decide +kernel
  exact ⟨hsel, removals_exact_iff _ _ _ hsel⟩

end VendorRs.LedLightManager
