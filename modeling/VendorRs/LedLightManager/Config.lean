import VendorRs.LedLightManager.Tracking

/-!
# Which lines of the configuration are loaded

`loadConfig` adds to six lists while it reads a line, and a line that fails takes all six lists with
it; reading then goes on. What is left in the end can be said without the loop: of the lines before
the first empty one, those after the last malformed one (`configRules`).

`loadLines_eq` is the loop, `loadConfig_exact` the callback in any state.
-/

namespace VendorRs.LedLightManager

open Java

variable {line data : String} {lines : List String}

/-- The six lists have the same length. -/
def RuleTable.Aligned (t : RuleTable) : Prop :=
  t.enabledStringForApps.length = t.enabledApps.length ∧
  t.enabledColorsForApps.length = t.enabledApps.length ∧
  t.enabledBlinkForApps.length = t.enabledApps.length ∧
  t.enabledOnMsForApps.length = t.enabledApps.length ∧
  t.enabledOffMsForApps.length = t.enabledApps.length

instance (t : RuleTable) : Decidable t.Aligned := inferInstanceAs (Decidable (_ ∧ _))

theorem RuleTable.aligned_ofRules (rules : List Rule) : (ofRules rules).Aligned := by
  simp [Aligned, ofRules]

/-- Three fields at least, and six if the fourth is `blink`. -/
def wellFormed (line : String) : Bool :=
  let fields := split ',' line
  3 ≤ fields.length && (fields[3]? ≠ some "blink" || 6 ≤ fields.length)

/-- The rule of a well-formed line. -/
def lineRule (line : String) : Rule :=
  let fields := split ',' line
  if fields[3]? = some "blink" then
    ⟨fields.getD 0 "", fields.getD 1 "", fields.getD 2 "", true,
      fields.getD 4 "", fields.getD 5 ""⟩
  else
    ⟨fields.getD 0 "", fields.getD 1 "", fields.getD 2 "", false, "0", "0"⟩

/-- The lines the loop comes to. -/
def configLines (data : String) : List String := (readLines data).takeWhile fun l => !l.isEmpty

/-- The rules of the configuration: those of the lines behind the last malformed one. -/
def configRules (data : String) : List Rule :=
  ((configLines data).rtakeWhile wellFormed).map lineRule

/-! ## One line -/

theorem getAt_of_lt {α : Type} {l : List α} {i : Nat} (d : α) (h : i < l.length) :
    getAt l i = .ok (l.getD i d) := by
  apply getAt_eq_ok
  rw [List.getD_eq_getElem?_getD, List.getElem?_eq_getElem h, Option.getD_some]

theorem getAt_of_le {α : Type} {l : List α} {i : Nat} (h : l.length ≤ i) :
    getAt l i = .error .indexOutOfBounds := by
  rw [getAt, List.getElem?_eq_none h]

theorem parseLine_of_wellFormed (h : wellFormed line = true) :
    parseLine line = .ok (lineRule line) := by
  unfold wellFormed at h
  unfold parseLine lineRule
  generalize split ',' line = fields at h ⊢
  simp only [Bool.and_eq_true, Bool.or_eq_true, decide_eq_true_eq] at h
  obtain ⟨hlen, hblink⟩ := h
  dsimp only
  rw [getAt_of_lt "" (by omega), ok_bind, getAt_of_lt "" (by omega), ok_bind,
    getAt_of_lt "" (by omega), ok_bind]
  by_cases hfour : fields.length > 3
  · rw [if_pos hfour, getAt_of_lt "" hfour, ok_bind]
    have hthree : fields[3]? = some (fields.getD 3 "") := by
      rw [List.getD_eq_getElem?_getD, List.getElem?_eq_getElem hfour, Option.getD_some]
    rw [hthree] at hblink ⊢
    by_cases hfields : fields.getD 3 "" = "blink"
    · have hsix : 6 ≤ fields.length := by
        apply hblink.resolve_left
        intro hne
        exact hne (congrArg some hfields)
      rw [if_pos hfields, if_pos (congrArg some hfields), getAt_of_lt "" (by omega), ok_bind,
        getAt_of_lt "" (by omega), ok_bind]
      rfl
    · rw [if_neg hfields, if_neg fun h => hfields (Option.some.inj h)]
      rfl
  · have hnone : fields[3]? = none := List.getElem?_eq_none (by omega)
    rw [if_neg hfour, hnone, if_neg (by simp)]
    rfl

theorem parseLine_of_malformed (h : wellFormed line = false) :
    parseLine line = .error .indexOutOfBounds := by
  unfold wellFormed at h
  unfold parseLine
  generalize split ',' line = fields at h ⊢
  simp only [Bool.and_eq_false_iff, Bool.or_eq_false_iff, decide_eq_false_iff_not, not_le] at h
  dsimp only
  by_cases h₀ : fields.length ≤ 0
  · rw [getAt_of_le h₀, error_bind]
  by_cases h₁ : fields.length ≤ 1
  · rw [getAt_of_lt "" (by omega), ok_bind, getAt_of_le h₁, error_bind]
  rw [getAt_of_lt "" (by omega), ok_bind, getAt_of_lt "" (by omega), ok_bind]
  by_cases h₂ : fields.length ≤ 2
  · rw [getAt_of_le h₂, error_bind]
  -- three fields are there, so the fourth is `blink` and a duration is missing
  rcases h with h | ⟨hblink, hsix⟩
  · omega
  have hthree : fields[3]? = some "blink" := by simpa using hblink
  have hfour : 3 < fields.length := (List.getElem?_eq_some_iff.mp hthree).1
  rw [getAt_of_lt "" (by omega), ok_bind, if_pos hfour, getAt_eq_ok hthree, ok_bind, if_pos rfl]
  by_cases h₄ : fields.length ≤ 4
  · rw [getAt_of_le h₄, error_bind]
  · rw [getAt_of_lt "" (by omega), ok_bind, getAt_of_le (by omega), error_bind]

/-! ## The loop -/

/-- What one non-empty line does to the table. -/
def loadLine (t : RuleTable) (line : String) : RuleTable :=
  if wellFormed line then t.add (lineRule line) else .empty

theorem loadLines_eq_foldl (t : RuleTable) (lines : List String) :
    loadLines t lines = (lines.takeWhile fun l => !l.isEmpty).foldl loadLine t := by
  induction lines generalizing t with
  | nil => rfl
  | cons line rest ih =>
      rw [loadLines, List.takeWhile_cons]
      by_cases hempty : line.isEmpty
      · simp [hempty]
      · by_cases hline : wellFormed line
        · rw [parseLine_of_wellFormed hline]
          simp [hempty, loadLine, hline, ih]
        · have hmal : wellFormed line = false := by simpa using hline
          rw [parseLine_of_malformed hmal]
          simp [hempty, loadLine, hmal, ih]

/-- From the last line back: a malformed one is where the rules that count begin. -/
theorem foldl_loadLine (lines : List String) :
    lines.foldl loadLine .empty = .ofRules ((lines.rtakeWhile wellFormed).map lineRule) := by
  induction lines using List.reverseRecOn with
  | nil => rfl
  | append_singleton lines line ih =>
      rw [List.foldl_append, ih, List.foldl_cons, List.foldl_nil, loadLine,
        List.rtakeWhile_concat]
      by_cases hline : wellFormed line
      · rw [if_pos hline, if_pos hline, RuleTable.ofRules_add, List.map_append, List.map_singleton]
      · rw [if_neg hline, if_neg hline]
        rfl

theorem loadConfigText_eq (t : RuleTable) (hdata : data ≠ "") :
    loadConfigText t data = .ofRules (configRules data) := by
  have hne : ¬ data.isEmpty := by
    rw [String.isEmpty_iff]
    exact hdata
  rw [loadConfigText, if_neg hne, loadLines_eq_foldl, foldl_loadLine]
  rfl

/-! ## The callback -/

/-- **What `loadConfig` leaves in the rule table**, whatever was in it before. -/
theorem loadConfig_exact (s : State) (hdata : (getDataFromSharedPref s).2 = some data)
    (hne : data ≠ "") :
    (loadConfig s).rules.Aligned ∧ (loadConfig s).rules = .ofRules (configRules data) := by
  have hload : (loadConfig s).rules = .ofRules (configRules data) := by
    have hrules : (loadConfig s).rules =
        loadConfigText (getDataFromSharedPref s).1.rules data := by
      unfold loadConfig
      split
      · next s₁ hget =>
          rw [hget] at hdata
          cases hdata
      · next s₁ data' hget =>
          rw [hget] at hdata ⊢
          cases hdata
          rfl
    rw [hrules, loadConfigText_eq _ hne]
  rw [hload]
  exact ⟨RuleTable.aligned_ofRules _, rfl⟩

/-- A rule, a line that stops half way through its durations, a rule, and one behind an empty
line. -/
def mixedConfig : String := "a,,FF0000\nb,x,0000FF,blink,500\nc,,00FF00,steady\n\nd,,FFFFFF"

theorem loadConfig_exact_mixed :
    (loadConfig (.created (.withConfig mixedConfig))).rules.Aligned ∧
    (loadConfig (.created (.withConfig mixedConfig))).rules =
      .ofRules [⟨"c", "", "00FF00", false, "0", "0"⟩] := by
  have hdata : (getDataFromSharedPref (.created (.withConfig mixedConfig))).2 =
      some mixedConfig := by decide
  have hrules : configRules mixedConfig = [⟨"c", "", "00FF00", false, "0", "0"⟩] := by decide
  rw [← hrules]
  exact loadConfig_exact _ hdata (by decide)

end VendorRs.LedLightManager
