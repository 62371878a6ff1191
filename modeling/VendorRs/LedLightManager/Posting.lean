import VendorRs.LedLightManager.Config

/-!
# Which rule a post chooses, and what a rule that does not parse leaves behind

`getNotificationAndSetLed` works its way through the rules of the package with two flags and a
`break`; `getNotificationAndSetLed_eq` has put that as one choice from the table, for tables of any
shape. Two statements about single posts follow.

* `selects_and_sets`: on a table in step whose rules parse, the rule is the one `selectRule` names,
  it is shown once, and it is what the other five lists get.
* `rejected_leaves_intact_iff`: colours and durations are first parsed by `setColor`, after the
  package and the id have been added, so a rule that does not parse never leaves the lists as they
  were.
-/

namespace VendorRs.LedLightManager

open Java

variable {locale : DefaultLocale} {s s' : State} {n : StatusBarNotification} {c : Command}
  {x : Exception} {title : Option String} {t : RuleTable} {rules : List Rule}

/-! ## Exceptions of `setColor` -/

/-- What `Color.parseColor` and `Integer.valueOf` throw. -/
def Rejected (x : Exception) : Prop := x = .illegalArgument ∨ x = .numberFormat

instance (x : Exception) : Decidable (Rejected x) := inferInstanceAs (Decidable (_ ∨ _))

theorem parseSigned_error {bound : Int} {radix : Nat} {text : String}
    (h : parseSigned bound radix text = .error x) : x = .numberFormat := by
  unfold parseSigned at h
  split at h
  · split at h
    · cases h
    · cases h
      rfl
  · cases h
    rfl

theorem parseColor_error {text : String} (h : parseColor text = .error x) : Rejected x := by
  unfold parseColor at h
  rcases bind_eq_error.mp h with hlong | ⟨color, -, h⟩
  · exact .inr (parseSigned_error hlong)
  · split at h
    · cases h
    · split at h
      · cases h
        exact .inl rfl
      · cases h

/-- `setColor` fails only on a command that does not parse. The lists and the properties are then
as before; the durations may not be. -/
theorem setColor_error (h : setColor s c = .error (x, s')) :
    ¬ c.Parses ∧ Rejected x ∧ s'.tracked = s.tracked ∧ s'.rules = s.rules := by
  have hparse : ¬ c.Parses := by
    intro hc
    obtain ⟨led, hled, -⟩ := setColor_of_parses s hc
    rw [hled] at h
    cases h
  refine ⟨hparse, ?_⟩
  unfold setColor at h
  rcases bind_eq_error.mp h with h | ⟨color, -, h⟩
  · obtain ⟨hcolor, rfl⟩ := leaving_eq_error.mp h
    exact ⟨parseColor_error hcolor, rfl, rfl⟩
  rcases bind_eq_error.mp h with h | ⟨onMs, -, h⟩
  · obtain ⟨hon, rfl⟩ := leaving_eq_error.mp h
    exact ⟨.inr (parseSigned_error hon), rfl, rfl⟩
  -- the first duration is assigned by now
  rcases bind_eq_error.mp h with h | ⟨offMs, -, h⟩
  · obtain ⟨hoff, rfl⟩ := leaving_eq_error.mp h
    exact ⟨.inr (parseSigned_error hoff), rfl, rfl⟩
  · cases h

theorem setColor_of_not_parses (s : State) (h : ¬ c.Parses) :
    ∃ x s', setColor s c = .error (x, s') ∧ Rejected x ∧ s'.tracked = s.tracked := by
  cases hset : setColor s c with
  | ok s' => exact absurd (setColor_spec hset).1 h
  | error failure =>
      obtain ⟨x, s'⟩ := failure
      obtain ⟨-, hx, htracked, -⟩ := setColor_error hset
      exact ⟨x, s', rfl, hx, htracked⟩

/-! ## Tables in step -/

theorem RuleTable.Aligned.exists_rules (h : t.Aligned) : ∃ rules, t = ofRules rules := by
  obtain ⟨apps, strings, colors, blinks, ons, offs⟩ := t
  obtain ⟨hstrings, hcolors, hblinks, hons, hoffs⟩ := h
  dsimp only at hstrings hcolors hblinks hons hoffs
  induction apps generalizing strings colors blinks ons offs with
  | nil =>
      rw [List.length_nil, List.length_eq_zero_iff] at hstrings hcolors hblinks hons hoffs
      subst hstrings hcolors hblinks hons hoffs
      exact ⟨[], rfl⟩
  | cons app apps ih =>
      rw [List.length_cons] at hstrings hcolors hblinks hons hoffs
      obtain ⟨string, strings, rfl⟩ := List.exists_cons_of_length_eq_add_one hstrings
      obtain ⟨color, colors, rfl⟩ := List.exists_cons_of_length_eq_add_one hcolors
      obtain ⟨blink, blinks, rfl⟩ := List.exists_cons_of_length_eq_add_one hblinks
      obtain ⟨on, ons, rfl⟩ := List.exists_cons_of_length_eq_add_one hons
      obtain ⟨off, offs, rfl⟩ := List.exists_cons_of_length_eq_add_one hoffs
      obtain ⟨rules, hrules⟩ := ih strings colors blinks ons offs (Nat.succ.inj hstrings)
        (Nat.succ.inj hcolors) (Nat.succ.inj hblinks) (Nat.succ.inj hons) (Nat.succ.inj hoffs)
      simp only [ofRules, RuleTable.mk.injEq] at hrules
      obtain ⟨rfl, rfl, rfl, rfl, rfl, rfl⟩ := hrules
      exact ⟨⟨app, string, color, blink, on, off⟩ :: rules, rfl⟩

/-- A rule of the package is only found if the package is configured. -/
theorem selectRule_of_not_mem (h : n.packageName ∉ rules.map Rule.app) :
    selectRule locale n rules = none := by
  have hown : (rules.filter fun r => r.app = n.packageName) = [] := by
    rw [List.filter_eq_nil_iff]
    intro r hr happ
    apply h
    exact List.mem_map.mpr ⟨r, hr, by simpa using happ⟩
  simp [selectRule, hown]

theorem selectRule_mem {r : Rule} (h : selectRule locale n rules = some r) : r ∈ rules := by
  unfold selectRule at h
  rcases Option.or_eq_some_iff.mp h with h | ⟨-, h⟩
  · exact List.mem_of_mem_filter (List.mem_of_find?_eq_some h)
  · exact List.mem_of_mem_filter (List.mem_of_mem_filter (List.mem_of_getLast? h))

/-- Loading the configuration leaves the tracked lists and the LED alone. -/
theorem loadConfig_frame (s : State) :
    (loadConfig s).tracked = s.tracked ∧ (loadConfig s).commands = s.commands ∧
      (loadConfig s).onMs = s.onMs ∧ (loadConfig s).offMs = s.offMs ∧
      (loadConfig s).lightProps = s.lightProps := by
  obtain ⟨table, loaded, settings, hload, -⟩ := loadConfig_spec s
  rw [hload]
  exact ⟨rfl, rfl, rfl, rfl, rfl⟩

/-- **The rule a post selects, and what it does with it.** -/
theorem selects_and_sets (locale : DefaultLocale) (s : State) (n : StatusBarNotification)
    (haligned : (loadConfig s).rules.Aligned)
    (hparse : ∀ r ∈ (loadConfig s).rules.rows, r.command.Parses) :
    let rule := (selectRule locale n (loadConfig s).rules.rows).toList
    ∃ s', getNotificationAndSetLed locale s n = .ok s' ∧
      s'.commands = s.commands ++ rule.map Rule.command ∧
      s'.tracked.currentEnabledStringForApps =
        s.tracked.currentEnabledStringForApps ++ rule.map Rule.string ∧
      s'.tracked.currentEnabledColorsForApps =
        s.tracked.currentEnabledColorsForApps ++ rule.map Rule.color ∧
      s'.tracked.currentEnabledBlinkForApps =
        s.tracked.currentEnabledBlinkForApps ++ rule.map Rule.blink ∧
      s'.tracked.currentEnabledOnMsForApps =
        s.tracked.currentEnabledOnMsForApps ++ rule.map Rule.onMs ∧
      s'.tracked.currentEnabledOffMsForApps =
        s.tracked.currentEnabledOffMsForApps ++ rule.map Rule.offMs := by
  obtain ⟨htracked, hcommands, -⟩ := loadConfig_frame s
  obtain ⟨rules, hrules⟩ := haligned.exists_rules
  rw [hrules, RuleTable.rows_ofRules] at hparse ⊢
  rw [← htracked, ← hcommands]
  by_cases hpkg : n.packageName ∈ rules.map Rule.app
  · rw [getNotificationAndSetLed_spec hrules hpkg]
    cases hselect : selectRule locale n rules with
    | none => exact ⟨_, rfl, by simp [addApp]⟩
    | some r =>
        obtain ⟨led, hled, hcmds⟩ := setColor_of_parses (addApp (loadConfig s) n)
          (hparse r (selectRule_mem hselect))
        refine ⟨addInfos ((addApp (loadConfig s) n).withLed led) r.string r.command, ?_, hcmds,
          rfl, rfl, rfl, rfl, rfl⟩
        rw [postRule, hled]
        rfl
  · rw [getNotificationAndSetLed_of_not_mem hrules hpkg, selectRule_of_not_mem hpkg]
    exact ⟨_, rfl, by simp⟩

/-- The second rule of the package is in the title, the first is not. -/
theorem selects_and_sets_second :
    ∃ s', getNotificationAndSetLed .ascii (.created (.withConfig "app,,FF0000\napp,ba,00FF00"))
        (appNotification none "Bar") = .ok s' ∧
      s'.commands = [⟨"00FF00", false, "0", "0"⟩] ∧
      s'.tracked.currentEnabledStringForApps = ["ba"] := by
  have haligned :
      (loadConfig (.created (.withConfig "app,,FF0000\napp,ba,00FF00"))).rules.Aligned := by decide
  have hparse : ∀ r ∈
      (loadConfig (.created (.withConfig "app,,FF0000\napp,ba,00FF00"))).rules.rows,
      r.command.Parses := by decide +kernel
  have hrule : selectRule .ascii (appNotification none "Bar")
      (loadConfig (.created (.withConfig "app,,FF0000\napp,ba,00FF00"))).rules.rows =
        some ⟨"app", "ba", "00FF00", false, "0", "0"⟩ := by decide +kernel
  obtain ⟨s', hpost, hcommands, hstrings, -⟩ :=
    selects_and_sets .ascii _ (appNotification none "Bar") haligned hparse
  rw [hrule] at hcommands hstrings
  exact ⟨s', hpost, hcommands, hstrings⟩

/-! ## Rules that do not parse -/

/-- The seven lists alone. -/
def TrackedTable.lists (t : TrackedTable) : TrackedTable := { t with postedBy := [] }

/-- The seven lists, the durations and the properties are as they were in `s`. -/
def Intact (s s' : State) : Prop :=
  s'.tracked.lists = s.tracked.lists ∧ s'.onMs = s.onMs ∧ s'.offMs = s.offMs ∧
    s'.lightProps = s.lightProps

instance (s s' : State) : Decidable (Intact s s') := inferInstanceAs (Decidable (_ ∧ _))

/-- If the post ends because a colour or a duration is not accepted, nothing has changed. -/
def RejectedLeavesIntact (locale : DefaultLocale) (s : State) (n : StatusBarNotification) : Prop :=
  match getNotificationAndSetLed locale s n with
  | .error (x, s') => Rejected x → Intact s s'
  | .ok _ => True

instance (locale : DefaultLocale) (s : State) (n : StatusBarNotification) :
    Decidable (RejectedLeavesIntact locale s n) :=
  match h : getNotificationAndSetLed locale s n with
  | .error (x, s') =>
      decidable_of_iff (Rejected x → Intact s s') (by simp only [RejectedLeavesIntact, h])
  | .ok _ => isTrue (by simp only [RejectedLeavesIntact, h])

/-- The rule the post selects, if it selects one, has a colour and durations that parse. -/
def ChosenParses (locale : DefaultLocale) (s : State) (n : StatusBarNotification) : Prop :=
  ∀ string c, (loadConfig s).rules.chosen locale n = .ok (some (string, c)) → c.Parses

theorem commandAt_error {i : Nat} (h : t.commandAt i = .error x) : x = .indexOutOfBounds := by
  unfold RuleTable.commandAt at h
  rcases bind_eq_error.mp h with h | ⟨color, -, h⟩
  · exact getAt_eq_error h
  rcases bind_eq_error.mp h with h | ⟨blink, -, h⟩
  · exact getAt_eq_error h
  rcases bind_eq_error.mp h with h | ⟨onMs, -, h⟩
  · exact getAt_eq_error h
  rcases bind_eq_error.mp h with h | ⟨offMs, -, h⟩
  · exact getAt_eq_error h
  · cases h

/-- Choosing a rule parses nothing. -/
theorem chosenFrom_error {d : Option Nat} {is : List Nat}
    (h : chosenFrom locale title t d is = .error x) : x = .indexOutOfBounds := by
  induction is generalizing d with
  | nil =>
      cases d with
      | none => cases h
      | some i =>
          rcases bind_eq_error.mp h with h | ⟨c, -, h⟩
          · exact commandAt_error h
          · cases h
  | cons i rest ih =>
      have hcons : (getAt t.enabledStringForApps i >>= fun string =>
          if titleContains locale title string && !string.isEmpty then
            t.commandAt i >>= fun c => pure (some (string, c))
          else chosenFrom locale title t (if string.isEmpty then some i else d) rest) =
            .error x := by
        rw [← h]
        cases d <;> rfl
      rcases bind_eq_error.mp hcons with h | ⟨string, -, h⟩
      · exact getAt_eq_error h
      split at h
      · rcases bind_eq_error.mp h with h | ⟨c, -, h⟩
        · exact commandAt_error h
        · cases h
      · exact ih h

theorem chosen_of_not_configured (h : ¬ t.enabledApps.contains n.packageName) :
    t.chosen locale n = .ok none := by
  have hnone : indexOfMultiple t.enabledApps n.packageName = [] := by
    unfold indexOfMultiple
    rw [List.filter_eq_nil_iff]
    intro i _ hi
    apply h
    rw [List.contains_iff_mem]
    exact List.mem_of_getElem? (by simpa using hi)
  rw [RuleTable.chosen, hnone]
  rfl

/-- The package is tracked before the rule is looked for. -/
theorem addApp_not_intact {s₁ : State} (htracked : s₁.tracked = (addApp (loadConfig s) n).tracked) :
    ¬ Intact s s₁ := by
  intro hintact
  have happs := congrArg TrackedTable.currentEnabledApps hintact.1
  rw [TrackedTable.lists, htracked] at happs
  have hlen := congrArg List.length happs
  simp [addApp, TrackedTable.lists, (loadConfig_frame s).1] at hlen

/-- **A rule that is rejected is rejected too late**: the post leaves everything as it was only
where there is nothing to reject. -/
theorem rejected_leaves_intact_iff (locale : DefaultLocale) (s : State)
    (n : StatusBarNotification) :
    RejectedLeavesIntact locale s n ↔ ChosenParses locale s n := by
  unfold RejectedLeavesIntact ChosenParses
  rw [getNotificationAndSetLed_eq]
  by_cases hpkg : (loadConfig s).rules.enabledApps.contains n.packageName = true
  · rw [if_pos hpkg]
    cases hchosen : (loadConfig s).rules.chosen locale n with
    | error x =>
        have hx : x = .indexOutOfBounds := chosenFrom_error hchosen
        simp [showChosen, hx, Rejected]
    | ok rule =>
        cases rule with
        | none => simp [showChosen]
        | some rule =>
            obtain ⟨string, c⟩ := rule
            by_cases hc : c.Parses
            · obtain ⟨led, hled, -⟩ := setColor_of_parses (addApp (loadConfig s) n) hc
              simp [showChosen, hled, hc]
            · obtain ⟨x, s₁, hset, hx, htracked⟩ :=
                setColor_of_not_parses (addApp (loadConfig s) n) hc
              have hnot := addApp_not_intact htracked
              simp [showChosen, hset, hc, hx, hnot]
  · rw [if_neg hpkg, chosen_of_not_configured hpkg]
    simp

/-- A colour of seven digits: the package and the id stay in the lists, with nothing beside them. -/
theorem rejected_colour_leaves_entry :
    ¬ RejectedLeavesIntact .ascii (.created (.withConfig "app,,0FF0000"))
      (appNotification none "bar") := by
  decide +kernel

end VendorRs.LedLightManager
