import Mathlib.Data.List.Forall2
import Mathlib.Data.List.InsertIdx
import VendorRs.LedLightManager.Service

/-!
# What the callbacks do while the lists are in step

The service keeps two tables as parallel lists. Read abstractly, one is a list of rules and the
other a list of tracked entries; `RuleTable.ofRules` and `TrackedTable.ofEntries` lay such lists out
in columns. This file says what each callback does on tables of that form, in terms of the rules and
the entries alone:

* `setColor_spec`: `setColor` touches nothing but the LED (`State.withLed`);
* `getNotificationAndSetLed_eq`: the loop of a post, with its two flags and its `break`, is one
  choice from the table;
* `getNotificationAndSetLed_spec`: a post appends one entry for the rule `selectRule` picks, or, if
  there is none, only two of the seven columns grow;
* `removeLoop_spec`: a removal deletes exactly the entries that `Entry.matches` the notification.

Everything proved about runs of the service is proved from these, never from the loops.
-/

namespace VendorRs.LedLightManager

open Java

variable {locale : DefaultLocale} {s s' : State} {n : StatusBarNotification} {c : Command}

/-! ## Commands touch only the LED -/

/-- The part of the state that `setColor` writes. -/
structure Led where
  onMs : Int
  offMs : Int
  lightProps : LightProps
  commands : List Command

def State.withLed (s : State) (led : Led) : State :=
  { s with
    onMs := led.onMs
    offMs := led.offMs
    lightProps := led.lightProps
    commands := led.commands }

section WithLed

variable (s : State) (led : Led)

@[simp] theorem State.withLed_wasServiceStarted :
    (s.withLed led).wasServiceStarted = s.wasServiceStarted := rfl
@[simp] theorem State.withLed_mPowerReceiver :
    (s.withLed led).mPowerReceiver = s.mPowerReceiver := rfl
@[simp] theorem State.withLed_battery : (s.withLed led).battery = s.battery := rfl
@[simp] theorem State.withLed_commands : (s.withLed led).commands = led.commands := rfl

end WithLed

/-- `setColor` returns only for a command that parses, and then records it. -/
theorem setColor_spec (h : setColor s c = .ok s') :
    c.Parses ∧ ∃ led, s' = s.withLed led ∧ led.commands = s.commands ++ [c] := by
  simp only [setColor, bind_eq_ok, leaving_eq_ok] at h
  obtain ⟨color, hcolor, onMs, hon, offMs, hoff, h⟩ := h
  cases h
  exact ⟨⟨color, onMs, offMs, hcolor, hon, hoff⟩,
    ⟨onMs, offMs, lightProps c.blink color onMs offMs, s.commands ++ [c]⟩, rfl, rfl⟩

/-- `setColor` on arguments that parse. -/
theorem setColor_eq {color : BitVec 32} {onMs offMs : Int} (s : State)
    (hcolor : parseColor ("#" ++ c.hexColor) = .ok color) (hon : valueOf c.onMs = .ok onMs)
    (hoff : valueOf c.offMs = .ok offMs) :
    setColor s c = .ok
      (s.withLed ⟨onMs, offMs, lightProps c.blink color onMs offMs, s.commands ++ [c]⟩) := by
  simp only [setColor, hcolor, hon, hoff, leaving_ok, ok_bind]
  rfl

theorem setColor_of_parses (s : State) (h : c.Parses) :
    ∃ led, setColor s c = .ok (s.withLed led) ∧ led.commands = s.commands ++ [c] := by
  obtain ⟨color, onMs, offMs, hcolor, hon, hoff⟩ := h
  exact ⟨_, setColor_eq s hcolor hon hoff, rfl⟩

/-- `disableLed` always returns, with both tables empty. -/
theorem disableLed_spec (s : State) :
    ∃ led, disableLed s = .ok ({ s with rules := .empty, tracked := .empty }.withLed led) ∧
      led.commands = s.commands ++ [.off] :=
  setColor_of_parses _ Command.parses_off

/-- The commands `showCharging` issues, none when unplugged. -/
def chargingCommands (b : Battery) : List Command :=
  if isPowerConnected b then if isBatteryFull b then [.green] else [.yellow] else []

theorem showCharging_spec (s : State) :
    ∃ led, showCharging s = .ok (s.withLed led) ∧
      led.commands = s.commands ++ chargingCommands s.battery := by
  unfold showCharging chargingCommands
  by_cases hplug : isPowerConnected s.battery
  · by_cases hfull : isBatteryFull s.battery
    · simp only [hplug, hfull, Bool.and_self, if_true]
      exact setColor_of_parses s Command.parses_green
    · simp only [hplug, hfull, Bool.false_and, Bool.false_eq_true, if_true, if_false]
      exact setColor_of_parses s Command.parses_yellow
  · simp only [hplug, Bool.and_false, Bool.false_eq_true, if_false, List.append_nil]
    exact ⟨⟨s.onMs, s.offMs, s.lightProps, s.commands⟩, rfl, rfl⟩

/-! ## Entries and columns -/

/-- One tracked notification: index `i` of all seven lists, and who posted it. -/
structure Entry where
  app : String
  id : Int
  string : String
  color : String
  blink : Bool
  onMs : String
  offMs : String
  postedBy : Key
  deriving DecidableEq, Repr

/-- The command that shows the entry. -/
def Entry.command (e : Entry) : Command := ⟨e.color, e.blink, e.onMs, e.offMs⟩

/-- The command that shows the colour of the rule. -/
def Rule.command (r : Rule) : Command := ⟨r.color, r.blink, r.onMs, r.offMs⟩

/-- The entry a post of `n` adds when rule `r` is chosen. -/
def Entry.ofPost (n : StatusBarNotification) (r : Rule) : Entry :=
  ⟨n.packageName, n.id, r.string, r.color, r.blink, r.onMs, r.offMs, n.toKey⟩

/-- The columns of the rule table, read row by row. -/
def RuleTable.rows (t : RuleTable) : List Rule :=
  (List.range t.enabledApps.length).filterMap fun i => do
    let app ← t.enabledApps[i]?
    let string ← t.enabledStringForApps[i]?
    let color ← t.enabledColorsForApps[i]?
    let blink ← t.enabledBlinkForApps[i]?
    let onMs ← t.enabledOnMsForApps[i]?
    let offMs ← t.enabledOffMsForApps[i]?
    return ⟨app, string, color, blink, onMs, offMs⟩

/-- A list of entries, laid out in columns. -/
def TrackedTable.ofEntries (es : List Entry) : TrackedTable where
  currentEnabledApps := es.map Entry.app
  currentEnabledID := es.map Entry.id
  currentEnabledStringForApps := es.map Entry.string
  currentEnabledColorsForApps := es.map Entry.color
  currentEnabledBlinkForApps := es.map Entry.blink
  currentEnabledOnMsForApps := es.map Entry.onMs
  currentEnabledOffMsForApps := es.map Entry.offMs
  postedBy := es.map Entry.postedBy

/-- The columns of the tracked table, read row by row. -/
def TrackedTable.rows (t : TrackedTable) : List Entry :=
  (List.range t.currentEnabledApps.length).filterMap fun i => do
    let app ← t.currentEnabledApps[i]?
    let id ← t.currentEnabledID[i]?
    let string ← t.currentEnabledStringForApps[i]?
    let color ← t.currentEnabledColorsForApps[i]?
    let blink ← t.currentEnabledBlinkForApps[i]?
    let onMs ← t.currentEnabledOnMsForApps[i]?
    let offMs ← t.currentEnabledOffMsForApps[i]?
    let postedBy ← t.postedBy[i]?
    return ⟨app, id, string, color, blink, onMs, offMs, postedBy⟩

theorem filterMap_range_getElem? {α : Type} (l : List α) :
    ((List.range l.length).filterMap fun i => l[i]?) = l := by
  induction l using List.reverseRecOn with
  | nil => rfl
  | append_singleton l a ih =>
      have hlow : ((List.range l.length).filterMap fun i => (l ++ [a])[i]?) = l := by
        rw [List.filterMap_congr (g := fun i => l[i]?), ih]
        intro i hi
        rw [List.getElem?_append_left (List.mem_range.mp hi)]
      rw [List.length_append, List.length_singleton, List.range_succ, List.filterMap_append, hlow]
      simp

@[simp] theorem RuleTable.rows_ofRules (rules : List Rule) : (ofRules rules).rows = rules := by
  have hrow : (ofRules rules).rows = (List.range rules.length).filterMap fun i => rules[i]? := by
    simp only [rows, ofRules, List.length_map, List.getElem?_map]
    congr 1
    funext i
    cases rules[i]? <;> rfl
  rw [hrow, filterMap_range_getElem?]

@[simp] theorem TrackedTable.rows_ofEntries (es : List Entry) : (ofEntries es).rows = es := by
  have hrow : (ofEntries es).rows = (List.range es.length).filterMap fun i => es[i]? := by
    simp only [rows, ofEntries, List.length_map, List.getElem?_map]
    congr 1
    funext i
    cases es[i]? <;> rfl
  rw [hrow, filterMap_range_getElem?]

/-! ## Positions -/

section Positions

variable {α : Type} [DecidableEq α]

theorem indexOfMultiple_snoc (l : List α) (a object : α) :
    indexOfMultiple (l ++ [a]) object =
      indexOfMultiple l object ++ if a = object then [l.length] else [] := by
  have hlow : (List.range l.length).filter (fun i => (l ++ [a])[i]? = some object) =
      (List.range l.length).filter (fun i => l[i]? = some object) := by
    apply List.filter_congr
    intro i hi
    rw [List.getElem?_append_left (List.mem_range.mp hi)]
  simp only [indexOfMultiple, List.length_append, List.length_singleton, List.range_succ,
    List.filter_append, hlow]
  congr 1
  split <;> simp [*]

/-- The positions of `object` in a column point, in order, at the rows that have it there. -/
theorem forall₂_indexOfMultiple {ρ : Type} (f : ρ → α) (rows : List ρ) (object : α) :
    List.Forall₂ (fun i r => rows[i]? = some r) (indexOfMultiple (rows.map f) object)
      (rows.filter fun r => f r = object) := by
  induction rows using List.reverseRecOn with
  | nil => exact .nil
  | append_singleton rows r ih =>
      rw [List.map_append, List.map_singleton, indexOfMultiple_snoc, List.filter_append]
      have hlow : List.Forall₂ (fun i x => (rows ++ [r])[i]? = some x)
          (indexOfMultiple (rows.map f) object) (rows.filter fun r => f r = object) := by
        apply ih.imp
        intro i x hx
        have hi : i < rows.length := (List.getElem?_eq_some_iff.mp hx).1
        rw [List.getElem?_append_left hi, hx]
      refine List.rel_append hlow ?_
      by_cases h : f r = object
      · simp [h]
      · simp [h]

end Positions

/-! ## Choosing a rule -/

/-- The rule has a string, and the title contains it. -/
def Rule.matchesTitle (locale : DefaultLocale) (title : Option String) (r : Rule) : Bool :=
  titleContains locale title r.string && !r.string.isEmpty

/-- The rule a post selects: the first of the package whose string is in the title, else the last
of the package without a string. -/
def selectRule (locale : DefaultLocale) (n : StatusBarNotification) (rules : List Rule) :
    Option Rule :=
  let own := rules.filter fun r => r.app = n.packageName
  (own.find? (·.matchesTitle locale n.title)).or (own.filter (·.string.isEmpty)).getLast?

/-- What a post does with the rule it selected, the package and id being in the lists already. -/
def postRule (s : State) : Option Rule → Outcome State State
  | some r => (setColor s r.command).map fun s => addInfos s r.string r.command
  | none => .ok s

/-! ## The choice as a function of the table -/

/-- The arguments for the rule at index `i`. -/
def RuleTable.commandAt (t : RuleTable) (i : Nat) : Except Exception Command := do
  let color ← getAt t.enabledColorsForApps i
  let blink ← getAt t.enabledBlinkForApps i
  let onMs ← getAt t.enabledOnMsForApps i
  let offMs ← getAt t.enabledOffMsForApps i
  return ⟨color, blink, onMs, offMs⟩

/-- The string and the command of the rule chosen among the positions still to be tried, when the
loop has come to them with `defaultIndex`. -/
def chosenFrom (locale : DefaultLocale) (title : Option String) (t : RuleTable) :
    Option Nat → List Nat → Except Exception (Option (String × Command))
  | none, [] => .ok none
  | some i, [] => do
      let c ← t.commandAt i
      return some ("", c)
  | d, i :: rest => do
      let string ← getAt t.enabledStringForApps i
      if titleContains locale title string && !string.isEmpty then
        let c ← t.commandAt i
        return some (string, c)
      else chosenFrom locale title t (if string.isEmpty then some i else d) rest

/-- What a post of the notification chooses from the table. A package that is not configured has no
positions, and so no rule. -/
def RuleTable.chosen (locale : DefaultLocale) (t : RuleTable) (n : StatusBarNotification) :
    Except Exception (Option (String × Command)) :=
  chosenFrom locale n.title t none (indexOfMultiple t.enabledApps n.packageName)

/-- Show the rule and track it, the package and the id being tracked already. -/
def showChosen (s : State) : Except Exception (Option (String × Command)) → Outcome State State
  | .ok none => .ok s
  | .ok (some (string, c)) => do
      let s ← setColor s c
      return addInfos s string c
  | .error x => .error (x, s)

theorem ruleCommand_eq_leaving (s : State) (i : Nat) :
    ruleCommand s i = leaving s (s.rules.commandAt i) := by
  unfold ruleCommand RuleTable.commandAt
  cases getAt s.rules.enabledColorsForApps i with
  | error x => rfl
  | ok color =>
      cases getAt s.rules.enabledBlinkForApps i with
      | error x => rfl
      | ok blink =>
          cases getAt s.rules.enabledOnMsForApps i with
          | error x => rfl
          | ok onMs =>
              cases getAt s.rules.enabledOffMsForApps i with
              | error x => rfl
              | ok offMs => rfl

/-- The loop and the default after it show what `chosenFrom` says. -/
theorem postLoop_bind_postDefault (locale : DefaultLocale) (title : Option String) (s : State)
    (d : Option Nat) (is : List Nat) :
    (postLoop locale title s d is >>= fun r => postDefault r.1 r.2.1 r.2.2) =
      showChosen s (chosenFrom locale title s.rules d is) := by
  induction is generalizing d with
  | nil =>
      cases d with
      | none => rfl
      | some i =>
          show (ruleCommand s i >>= _) = showChosen s (s.rules.commandAt i >>= _)
          rw [ruleCommand_eq_leaving]
          cases s.rules.commandAt i with
          | error x => rfl
          | ok c =>
              rw [leaving_ok, ok_bind, ok_bind]
              rfl
  | cons i rest ih =>
      have hcons : chosenFrom locale title s.rules d (i :: rest) =
          (getAt s.rules.enabledStringForApps i >>= fun string =>
            if titleContains locale title string && !string.isEmpty then
              s.rules.commandAt i >>= fun c => pure (some (string, c))
            else chosenFrom locale title s.rules (if string.isEmpty then some i else d) rest) := by
        cases d <;> rfl
      rw [postLoop, hcons]
      cases getAt s.rules.enabledStringForApps i with
      | error x => rfl
      | ok string =>
          rw [leaving_ok, ok_bind, ok_bind]
          dsimp only
          by_cases hfound : (titleContains locale title string && !string.isEmpty) = true
          · -- `break`: nothing is left to do for the default
            rw [if_pos hfound, if_pos hfound, ruleCommand_eq_leaving]
            cases s.rules.commandAt i with
            | error x => rfl
            | ok c =>
                rw [leaving_ok, ok_bind, ok_bind]
                show (setColor s c >>= _) >>= _ = (setColor s c >>= _)
                cases setColor s c with
                | error x => rfl
                | ok s' => cases d <;> rfl
          · rw [if_neg hfound, if_neg hfound]
            by_cases hempty : string.isEmpty = true
            · rw [if_pos hempty, if_pos hempty]
              exact ih (some i)
            · rw [if_neg hempty, if_neg hempty]
              exact ih d

/-- What a post does, whatever the tables look like. -/
theorem getNotificationAndSetLed_eq (locale : DefaultLocale) (s : State)
    (n : StatusBarNotification) :
    getNotificationAndSetLed locale s n =
      if (loadConfig s).rules.enabledApps.contains n.packageName then
        showChosen (addApp (loadConfig s) n) ((loadConfig s).rules.chosen locale n)
      else .ok (loadConfig s) := by
  unfold getNotificationAndSetLed
  dsimp only
  by_cases hpkg : (loadConfig s).rules.enabledApps.contains n.packageName = true
  · rw [if_pos hpkg, if_pos hpkg]
    exact postLoop_bind_postDefault locale n.title (addApp (loadConfig s) n) none _
  · rw [if_neg hpkg, if_neg hpkg]
    rfl

/-! ## Choosing from rules -/

section Posting

variable {rules : List Rule}

theorem commandAt_ofRules {i : Nat} {r : Rule} (hi : rules[i]? = some r) :
    (RuleTable.ofRules rules).commandAt i = .ok r.command := by
  simp only [RuleTable.commandAt, RuleTable.ofRules, getAt, List.getElem?_map, hi, Option.map_some,
    ok_bind]
  rfl

/-- The choice among positions that point at the rules `rs`, the default so far being `rd`. -/
theorem chosenFrom_ofRules (locale : DefaultLocale) (title : Option String) {is : List Nat}
    {rs : List Rule}
    (his : List.Forall₂ (fun i r => rules[i]? = some r) is rs) {d : Option Nat} {rd : Option Rule}
    (hd : Option.Rel (fun i r => rules[i]? = some r) d rd) (hempty : ∀ r ∈ rd, r.string = "") :
    chosenFrom locale title (.ofRules rules) d is =
      .ok (((rs.find? (·.matchesTitle locale title)).or
        ((rs.filter (·.string.isEmpty)).getLast?.or rd)).map fun r => (r.string, r.command)) := by
  -- along the positions; `defaultIndex` and the rule it points at move together
  induction his generalizing d rd with
  | nil =>
      cases hd with
      | none => rfl
      | @some i r hi =>
          show ((RuleTable.ofRules rules).commandAt i >>= _) = _
          rw [commandAt_ofRules hi, ok_bind, ← hempty r rfl]
          rfl
  | @cons i r is rs hi _ ih =>
      have hstring : getAt (RuleTable.ofRules rules).enabledStringForApps i = .ok r.string := by
        apply getAt_eq_ok
        simp [RuleTable.ofRules, hi]
      have hcons : chosenFrom locale title (.ofRules rules) d (i :: is) =
          if r.matchesTitle locale title then .ok (some (r.string, r.command))
          else chosenFrom locale title (.ofRules rules) (if r.string.isEmpty then some i else d)
            is := by
        cases d <;> simp only [chosenFrom, hstring, ok_bind, commandAt_ofRules hi] <;> rfl
      rw [hcons, List.find?_cons]
      by_cases hmatch : r.matchesTitle locale title
      · simp [hmatch]
      · by_cases hr : r.string.isEmpty
        · have hdefault := ih (.some hi) (by simpa using String.isEmpty_iff.mp hr)
          simpa [hmatch, hr, List.getLast?_cons] using hdefault
        · simpa [hmatch, hr] using ih hd hempty

theorem chosen_ofRules (locale : DefaultLocale) (rules : List Rule) (n : StatusBarNotification) :
    (RuleTable.ofRules rules).chosen locale n =
      .ok ((selectRule locale n rules).map fun r => (r.string, r.command)) := by
  have hchosen := chosenFrom_ofRules locale n.title
    (forall₂_indexOfMultiple Rule.app rules n.packageName) .none (by simp)
  rw [Option.or_none] at hchosen
  exact hchosen

theorem showChosen_ok (s : State) (rule : Option Rule) :
    showChosen s (.ok (rule.map fun r => (r.string, r.command))) = postRule s rule := by
  cases rule with
  | none => rfl
  | some r =>
      rw [Option.map_some, showChosen, postRule]
      cases setColor s r.command <;> rfl

/-- **What a post does**, once the configuration is loaded and the package is configured. -/
theorem getNotificationAndSetLed_spec (hrules : (loadConfig s).rules = .ofRules rules)
    (hpkg : n.packageName ∈ rules.map Rule.app) :
    getNotificationAndSetLed locale s n =
      postRule (addApp (loadConfig s) n) (selectRule locale n rules) := by
  have hcontains : (RuleTable.ofRules rules).enabledApps.contains n.packageName = true :=
    List.contains_iff_mem.mpr hpkg
  rw [getNotificationAndSetLed_eq, hrules, if_pos hcontains, chosen_ofRules, showChosen_ok]

/-- A post for a package without rules changes nothing but the configuration it loads. -/
theorem getNotificationAndSetLed_of_not_mem (hrules : (loadConfig s).rules = .ofRules rules)
    (hpkg : n.packageName ∉ rules.map Rule.app) :
    getNotificationAndSetLed locale s n = .ok (loadConfig s) := by
  have hcontains : ¬ (RuleTable.ofRules rules).enabledApps.contains n.packageName = true := by
    rw [List.contains_iff_mem]
    exact hpkg
  rw [getNotificationAndSetLed_eq, hrules, if_neg hcontains]

end Posting

/-! ## Removing entries -/

/-- The entries a removal of `n` deletes: those of its package and id whose string is empty or in
the title that `n` has *at the removal*. The tag and the user play no part. -/
def Entry.matches (locale : DefaultLocale) (n : StatusBarNotification) (e : Entry) : Bool :=
  e.app = n.packageName && e.id = n.id &&
    (e.string.isEmpty || titleContains locale n.title e.string)

section Removing

variable {es : List Entry}

theorem removeEntry_eq (hs : s.tracked = .ofEntries es) {i : Nat} (hi : i < es.length) :
    removeEntry s i = .ok { s with tracked := .ofEntries (es.eraseIdx i) } := by
  have hremove : ∀ {α : Type} (f : Entry → α),
      removeAt (es.map f) i = .ok ((es.eraseIdx i).map f) := by
    intro α f
    rw [removeAt_eq_ok (by rw [List.length_map]; exact hi), List.eraseIdx_map]
  simp only [removeEntry, hs, TrackedTable.ofEntries, hremove, leaving_ok, ok_bind,
    List.eraseIdx_map]
  rfl

/-- One round of the removal loop, at the position of entry `e`. -/
theorem removeLoop_cons (hs : s.tracked = .ofEntries es) {i : Nat} {e : Entry}
    (hi : es[i]? = some e) (happ : e.app = n.packageName) (is : List Nat) :
    removeLoop locale n s (i :: is) =
      removeLoop locale n
        (if e.matches locale n then { s with tracked := .ofEntries (es.eraseIdx i) } else s)
        is := by
  have hstring : getAt s.tracked.currentEnabledStringForApps i = .ok e.string := by
    apply getAt_eq_ok
    simp [hs, TrackedTable.ofEntries, hi]
  have hid : getAt s.tracked.currentEnabledID i = .ok e.id := by
    apply getAt_eq_ok
    simp [hs, TrackedTable.ofEntries, hi]
  have hlt : i < es.length := (List.getElem?_eq_some_iff.mp hi).1
  rw [removeLoop, hstring, leaving_ok, ok_bind, hid, leaving_ok, ok_bind, removeEntry_eq hs hlt]
  simp only [Entry.matches, happ, ok_bind]
  by_cases hid : e.id = n.id
  · by_cases hempty : e.string.isEmpty
    · simp [hid, hempty]
    · by_cases htitle : titleContains locale n.title e.string
      · simp [hid, hempty, htitle]
      · simp [hid, hempty, htitle]
  · simp [hid]

/-- The removal loop over the positions in `pre`, when it is done with the positions in `suf`. It
goes from high positions to low ones, so a deletion never moves a position still to come. -/
theorem removeLoop_append (locale : DefaultLocale) (n : StatusBarNotification)
    (pre suf : List Entry) (hs : s.tracked = .ofEntries (pre ++ suf)) :
    removeLoop locale n s (indexOfMultiple (pre.map Entry.app) n.packageName).reverse =
      .ok { s with tracked := .ofEntries (pre.filter (fun e => !e.matches locale n) ++ suf) } := by
  -- from the end, as the loop goes; an entry that is kept moves from `pre` to `suf`
  induction pre using List.reverseRecOn generalizing suf s with
  | nil =>
      show Except.ok s = _
      rw [List.filter_nil, ← hs]
  | append_singleton pre e ih =>
      rw [List.append_assoc, List.singleton_append] at hs
      have hget : (pre ++ e :: suf)[pre.length]? = some e := by simp
      have herase : (pre ++ e :: suf).eraseIdx pre.length = pre ++ suf := by
        rw [List.eraseIdx_append_of_length_le le_rfl, Nat.sub_self, List.eraseIdx_zero,
          List.tail_cons]
      rw [List.map_append, List.map_singleton, indexOfMultiple_snoc, List.length_map,
        List.reverse_append, List.filter_append]
      by_cases happ : e.app = n.packageName
      · rw [if_pos happ, List.reverse_singleton, List.singleton_append,
          removeLoop_cons hs hget happ, herase]
        by_cases hmatch : e.matches locale n
        · rw [if_pos hmatch, ih suf rfl]
          simp [hmatch]
        · rw [if_neg hmatch, ih (e :: suf) hs]
          simp [hmatch]
      · have hmatch : e.matches locale n = false := by simp [Entry.matches, happ]
        rw [if_neg happ, List.reverse_nil, List.nil_append, ih (e :: suf) hs]
        simp [hmatch]

/-- **What the removal loop does**: it deletes the entries that match, and keeps the others in
their order. -/
theorem removeLoop_spec (hs : s.tracked = .ofEntries es) :
    removeLoop locale n s (indexOfMultiple (es.map Entry.app) n.packageName).reverse =
      .ok { s with tracked := .ofEntries (es.filter fun e => !e.matches locale n) } := by
  simpa using removeLoop_append locale n es [] (by rw [List.append_nil, hs])

/-- The LED after a removal: the last entry left, or off. -/
def showLatest (s : State) (es : List Entry) : Outcome State State :=
  match es.getLast? with
  | some e => setColor s e.command
  | none => disableLed s

/-- The charging colour, if nothing is tracked and the device is plugged. -/
def chargeIfIdle (s : State) : Outcome State State :=
  if isPowerConnected s.battery && s.tracked.currentEnabledApps.isEmpty then showCharging s
  else .ok s

theorem lastTrackedCommand_eq (hs : s.tracked = .ofEntries es) {e : Entry}
    (he : es.getLast? = some e) : lastTrackedCommand s = .ok e.command := by
  have hget : ∀ {α : Type} (f : Entry → α), getAt (es.map f) (es.length - 1) = .ok (f e) := by
    intro α f
    apply getAt_eq_ok
    rw [List.getElem?_map, ← List.getLast?_eq_getElem?, he, Option.map_some]
  simp only [lastTrackedCommand, hs, TrackedTable.ofEntries, List.length_map, hget, leaving_ok,
    ok_bind]
  rfl

theorem removeNotification_eq (hs : s.tracked = .ofEntries es) :
    removeNotification locale s n =
      let kept := es.filter fun e => !e.matches locale n
      showLatest { s with tracked := .ofEntries kept } kept := by
  have happs : s.tracked.currentEnabledApps = es.map Entry.app := by rw [hs]; rfl
  rw [removeNotification, happs]
  show (removeLoop locale n s _ >>= _) = _
  rw [removeLoop_spec hs, ok_bind]
  generalize es.filter (fun e => !e.matches locale n) = kept
  show (if (kept.map Entry.color).length > 0 then _ else _) = showLatest _ kept
  cases hlast : kept.getLast? with
  | none =>
      have hnil : kept = [] := List.getLast?_eq_none_iff.mp hlast
      subst hnil
      rfl
  | some e =>
      have hpos : (kept.map Entry.color).length > 0 := by
        rw [List.length_map]; exact List.length_pos_of_mem (List.mem_of_getLast? hlast)
      rw [if_pos hpos, lastTrackedCommand_eq rfl hlast, ok_bind, showLatest, hlast]

/-- **What a removal does**, on a table whose columns are in step. -/
theorem onNotificationRemoved_spec (hs : s.tracked = .ofEntries es) :
    onNotificationRemoved locale s n =
      if n.packageName ∈ es.map Entry.app then
        let kept := es.filter fun e => !e.matches locale n
        showLatest { s with tracked := .ofEntries kept } kept >>= chargeIfIdle
      else chargeIfIdle s := by
  have hcontains : s.tracked.currentEnabledApps.contains n.packageName =
      decide (n.packageName ∈ es.map Entry.app) := by
    rw [hs]; exact List.contains_eq_mem ..
  rw [onNotificationRemoved, hcontains, removeNotification_eq hs]
  by_cases hmem : n.packageName ∈ es.map Entry.app
  · rw [if_pos hmem, if_pos (decide_eq_true hmem)]
    rfl
  · rw [if_neg hmem, if_neg (by simpa using hmem)]
    rfl

theorem chargeIfIdle_spec (s : State) :
    ∃ led, chargeIfIdle s = .ok (s.withLed led) ∧ led.commands = s.commands ++
      if s.tracked.currentEnabledApps.isEmpty then chargingCommands s.battery else [] := by
  unfold chargeIfIdle
  by_cases hidle : s.tracked.currentEnabledApps.isEmpty
  · by_cases hplug : isPowerConnected s.battery
    · simp only [hidle, hplug, Bool.and_self, if_true]
      exact showCharging_spec s
    · simp only [hidle, hplug, Bool.false_and, Bool.false_eq_true, if_true, if_false,
        chargingCommands, List.append_nil]
      exact ⟨⟨s.onMs, s.offMs, s.lightProps, s.commands⟩, rfl, rfl⟩
  · simp only [hidle, Bool.and_false, Bool.false_eq_true, if_false, List.append_nil]
    exact ⟨⟨s.onMs, s.offMs, s.lightProps, s.commands⟩, rfl, rfl⟩

/-- A package without a tracked entry matches none. -/
theorem filter_matches_of_not_mem (h : n.packageName ∉ es.map Entry.app) :
    (es.filter fun e => !e.matches locale n) = es := by
  apply List.filter_eq_self.mpr
  intro e he
  have happ : e.app ≠ n.packageName := by
    intro happ
    apply h
    exact List.mem_map.mpr ⟨e, he, happ⟩
  simp [Entry.matches, happ]

/-- Whatever else a removal does, the entries it leaves are those that do not match. -/
theorem onNotificationRemoved_entries (hs : s.tracked = .ofEntries es)
    (h : onNotificationRemoved locale s n = .ok s') :
    s'.tracked = .ofEntries (es.filter fun e => !e.matches locale n) ∧
      (s'.rules = s.rules ∨ s'.rules = .empty) := by
  rw [onNotificationRemoved_spec hs] at h
  split at h
  · obtain ⟨s₁, h₁, h⟩ := bind_eq_ok.mp h
    obtain ⟨led, hcharge, -⟩ := chargeIfIdle_spec s₁
    rw [hcharge] at h
    cases h
    generalize es.filter (fun e => !e.matches locale n) = kept at h₁ ⊢
    cases hlast : kept.getLast? with
    | none =>
        -- nothing is kept, so that `disableLed` clears no entry; it clears the rules
        have hnil : kept = [] := List.getLast?_eq_none_iff.mp hlast
        obtain ⟨led, hoff, -⟩ := disableLed_spec { s with tracked := .ofEntries kept }
        rw [showLatest, hlast] at h₁
        rw [hoff] at h₁
        cases h₁
        rw [hnil]
        exact ⟨rfl, .inr rfl⟩
    | some e =>
        rw [showLatest, hlast] at h₁
        obtain ⟨-, led, rfl, -⟩ := setColor_spec h₁
        exact ⟨rfl, .inl rfl⟩
  · next hmem =>
      obtain ⟨led, hcharge, -⟩ := chargeIfIdle_spec s
      rw [hcharge] at h
      cases h
      rw [filter_matches_of_not_mem hmem]
      exact ⟨hs, .inl rfl⟩

end Removing

/-! ## Lifecycle and power -/

theorem getDataFromSharedPref_spec (s : State) :
    ∃ loaded settings, (getDataFromSharedPref s).1 = { s with
      configFileAlreadyLoaded := loaded, ledSettings := settings } := by
  unfold getDataFromSharedPref
  by_cases hloaded : s.configFileAlreadyLoaded
  · exact ⟨s.configFileAlreadyLoaded, s.ledSettings, by rw [if_pos hloaded]⟩
  · cases hfile : s.configFile with
    | none => exact ⟨false, s.ledSettings, by simp [hloaded]⟩
    | some content => exact ⟨true, some (convertStreamToString content), by simp [hloaded]⟩

/-- `loadConfig` changes the rule table, and what it remembers of the file; its result is in step if
the table was. -/
theorem loadConfig_spec (s : State) :
    ∃ table loaded settings, loadConfig s = { s with
        rules := table, configFileAlreadyLoaded := loaded, ledSettings := settings } ∧
      ∀ rules, s.rules = .ofRules rules → ∃ rules', table = .ofRules rules' := by
  obtain ⟨loaded, settings, hdata⟩ := getDataFromSharedPref_spec s
  unfold loadConfig
  split
  · next s₁ hget =>
      rw [hget] at hdata
      subst hdata
      exact ⟨s.rules, loaded, settings, rfl, fun rules h => ⟨rules, h⟩⟩
  · next s₁ data hget =>
      rw [hget] at hdata
      subst hdata
      refine ⟨loadConfigText s.rules data, loaded, settings, rfl, ?_⟩
      intro rules h
      rw [h]
      exact loadConfigText_eq_ofRules data rules

/-- The two ways of showing the charging colour are one. -/
theorem showChargingOnPowerOn_eq (s : State) : showChargingOnPowerOn s = showCharging s := by
  unfold showChargingOnPowerOn showCharging
  by_cases hplug : isPowerConnected s.battery
  · by_cases hfull : isBatteryFull s.battery
    · simp [hplug, hfull]
    · simp [hplug, hfull]
  · simp [hplug]

theorem onPowerOn_spec (s : State) :
    ∃ led, onPowerOn s = .ok ({ s with
        mPowerReceiver := s.mPowerReceiver || !s.wasServiceStarted
        wasServiceStarted := true }.withLed led) ∧
      led.commands = s.commands ++
        if s.wasServiceStarted then [] else chargingCommands s.battery := by
  by_cases hstarted : s.wasServiceStarted
  · -- started before: the receiver is left as it is
    refine ⟨⟨s.onMs, s.offMs, s.lightProps, s.commands⟩, ?_, by simp [hstarted]⟩
    rw [onPowerOn, if_neg (by simp [hstarted]), hstarted, Bool.not_true, Bool.or_false]
    show Except.ok s = Except.ok { s with wasServiceStarted := true }
    rw [← hstarted]
  · obtain ⟨led, hled, hcmds⟩ := showCharging_spec { s with mPowerReceiver := true }
    refine ⟨led, ?_, by rw [if_neg hstarted]; exact hcmds⟩
    rw [onPowerOn, if_pos (by simp [hstarted])]
    show (showChargingOnPowerOn { s with mPowerReceiver := true } >>= _) = _
    have hreg : (s.mPowerReceiver || !s.wasServiceStarted) = true := by simp [hstarted]
    rw [showChargingOnPowerOn_eq, hled, ok_bind, hreg]
    rfl

/-- Connecting always returns. The receiver is registered by the first connection only. -/
theorem onListenerConnected_spec (s : State) :
    ∃ table loaded settings led, onListenerConnected s = .ok ({ s with
        isListenerConnected := true, rules := table, configFileAlreadyLoaded := loaded,
        ledSettings := settings, disableRgb := "1",
        mPowerReceiver := s.mPowerReceiver || !s.wasServiceStarted
        wasServiceStarted := true }.withLed led) ∧
      led.commands = s.commands ++
        (if s.wasServiceStarted then [] else chargingCommands s.battery) ∧
      ∀ rules, s.rules = .ofRules rules → ∃ rules', table = .ofRules rules' := by
  obtain ⟨table, loaded, settings, hload, htable⟩ :=
    loadConfig_spec { s with isListenerConnected := true }
  obtain ⟨led, hpower, hcmds⟩ := onPowerOn_spec
    { loadConfig { s with isListenerConnected := true } with disableRgb := "1" }
  simp only [hload] at hpower hcmds
  refine ⟨table, loaded, settings, led, ?_, hcmds, htable⟩
  rw [onListenerConnected]
  simp only [hload, hpower]

theorem onClose_of_registered (hreg : s.mPowerReceiver = true) :
    ∃ led, onClose s = .ok ({ s with
        rules := .empty, tracked := .empty, disableRgb := "", configFileAlreadyLoaded := false,
        mPowerReceiver := false }.withLed led) ∧
      led.commands = s.commands ++ [.off] := by
  obtain ⟨led, hoff, hcmds⟩ := disableLed_spec s
  refine ⟨led, ?_, hcmds⟩
  rw [onClose, hoff, ok_bind]
  simp [unregisterPowerReceiver, hreg, State.withLed]

theorem onClose_of_not_registered (hreg : s.mPowerReceiver = false) :
    ∃ s', onClose s = .error (.receiverNotRegistered, s') := by
  obtain ⟨led, hoff, -⟩ := disableLed_spec s
  rw [onClose, hoff, ok_bind]
  simp [unregisterPowerReceiver, hreg]

/-- The commands a broadcast issues while nothing is tracked. -/
def powerCommands (b : Battery) : PowerAction → List Command
  | .batteryChanged | .powerConnected => chargingCommands b
  | .powerDisconnected => [.off]

theorem onPowerReceive_spec (hrgb : s.disableRgb = "1") (action : PowerAction) :
    ∃ led, onPowerReceive s action = .ok (s.withLed led) ∧ led.commands = s.commands ++
      if s.tracked.currentEnabledApps.isEmpty then powerCommands s.battery action else [] := by
  unfold onPowerReceive
  rw [if_neg (by simp [hrgb])]
  by_cases hidle : s.tracked.currentEnabledApps.isEmpty
  · simp only [hidle, if_true]
    cases action with
    | batteryChanged => exact showCharging_spec s
    | powerConnected => exact showCharging_spec s
    | powerDisconnected => exact setColor_of_parses s Command.parses_off
  · -- a notification is tracked, and the LED left to it
    refine ⟨⟨s.onMs, s.offMs, s.lightProps, s.commands⟩, ?_, by simp [hidle]⟩
    cases action <;> simp [hidle] <;> rfl

end VendorRs.LedLightManager
