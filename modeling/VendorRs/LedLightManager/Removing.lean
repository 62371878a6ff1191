import VendorRs.LedLightManager.Posting

/-!
# What a removal deletes

The positions `onNotificationRemoved` deletes at are computed once, from the lists as they are when
it begins, and used while seven lists shrink. They are used from the last to the first, so a
deletion moves only what the loop is done with; `removeLoop_keepAt` is that argument, by induction
on the position the loop has come to.

Nothing but the lengths of the lists is assumed, so nothing of how the entries came into them.
-/

namespace VendorRs.LedLightManager

open Java

variable {locale : DefaultLocale} {s s' : State} {n : StatusBarNotification} {t : TrackedTable}
  {keep : Nat → Bool} {i : Nat}

/-! ## Deleting positions -/

section KeepAt

variable {α β : Type}

/-- The elements at the positions `keep` allows, in their order. -/
def keepAt (keep : Nat → Bool) : List α → List α
  | [] => []
  | a :: l =>
      if keep 0 then a :: keepAt (fun i => keep (i + 1)) l else keepAt (fun i => keep (i + 1)) l

theorem keepAt_all (l : List α) : keepAt (fun _ => true) l = l := by
  induction l with
  | nil => rfl
  | cons a l ih => rw [keepAt, if_pos rfl, ih]

/-- How much is kept depends on the positions only. -/
theorem length_keepAt_eq {l : List α} {l' : List β} (h : l.length = l'.length) :
    (keepAt keep l).length = (keepAt keep l').length := by
  induction l generalizing keep l' with
  | nil =>
      rw [List.eq_nil_of_length_eq_zero h.symm]
      rfl
  | cons a l ih =>
      obtain ⟨b, l', rfl⟩ := List.exists_cons_of_length_eq_add_one h.symm
      have htail := @ih (fun i => keep (i + 1)) l' (Nat.succ.inj h)
      by_cases hkeep : keep 0 = true
      · simp [keepAt, hkeep, htail]
      · simp [keepAt, hkeep, htail]

/-- Up to a position below which all is kept, nothing has moved. -/
theorem getElem?_keepAt (l : List α) (h : ∀ j ≤ i, keep j = true) :
    (keepAt keep l)[i]? = l[i]? := by
  induction l generalizing keep i with
  | nil => rfl
  | cons a l ih =>
      rw [keepAt, if_pos (h 0 (Nat.zero_le i))]
      cases i with
      | zero => rfl
      | succ i =>
          rw [List.getElem?_cons_succ, List.getElem?_cons_succ]
          apply ih
          intro j hj
          exact h (j + 1) (Nat.succ_le_succ hj)

theorem eraseIdx_keepAt (l : List α) (h : ∀ j ≤ i, keep j = true) :
    (keepAt keep l).eraseIdx i = keepAt (fun j => keep j && j != i) l := by
  induction l generalizing keep i with
  | nil => rfl
  | cons a l ih =>
      rw [keepAt, if_pos (h 0 (Nat.zero_le i)), keepAt]
      cases i with
      | zero => simp
      | succ i =>
          have htail := @ih (fun j => keep (j + 1)) i fun j hj => h (j + 1) (Nat.succ_le_succ hj)
          simp [h 0 (Nat.zero_le _), htail]

end KeepAt

/-- The same positions of every list. -/
def TrackedTable.keepAt (keep : Nat → Bool) (t : TrackedTable) : TrackedTable where
  currentEnabledApps := LedLightManager.keepAt keep t.currentEnabledApps
  currentEnabledID := LedLightManager.keepAt keep t.currentEnabledID
  currentEnabledStringForApps := LedLightManager.keepAt keep t.currentEnabledStringForApps
  currentEnabledColorsForApps := LedLightManager.keepAt keep t.currentEnabledColorsForApps
  currentEnabledBlinkForApps := LedLightManager.keepAt keep t.currentEnabledBlinkForApps
  currentEnabledOnMsForApps := LedLightManager.keepAt keep t.currentEnabledOnMsForApps
  currentEnabledOffMsForApps := LedLightManager.keepAt keep t.currentEnabledOffMsForApps
  postedBy := LedLightManager.keepAt keep t.postedBy

theorem TrackedTable.keepAt_all (t : TrackedTable) : t.keepAt (fun _ => true) = t := by
  simp only [keepAt, LedLightManager.keepAt_all]

theorem TrackedTable.Aligned.keepAt (h : t.Aligned) (keep : Nat → Bool) :
    (t.keepAt keep).Aligned := by
  obtain ⟨hid, hstring, hcolor, hblink, hon, hoff⟩ := h
  exact ⟨length_keepAt_eq hid, length_keepAt_eq hstring, length_keepAt_eq hcolor,
    length_keepAt_eq hblink, length_keepAt_eq hon, length_keepAt_eq hoff⟩

theorem TrackedTable.aligned_lists : t.lists.Aligned ↔ t.Aligned := Iff.rfl

/-! ## The loop -/

/-- The entry at `i` is one the removal of `n` deletes: same package, same id, and a string that is
empty or in the title. -/
def TrackedTable.matchesAt (locale : DefaultLocale) (n : StatusBarNotification) (t : TrackedTable)
    (i : Nat) : Bool :=
  t.currentEnabledApps[i]? = some n.packageName && t.currentEnabledID[i]? = some n.id &&
    t.currentEnabledStringForApps[i]?.any fun string =>
      string.isEmpty || titleContains locale n.title string

theorem removeAt_keepAt {α : Type} {l : List α} (hi : i < l.length)
    (hkeep : ∀ j ≤ i, keep j = true) :
    removeAt (keepAt keep l) i = .ok (keepAt (fun j => keep j && j != i) l) := by
  have hlt : i < (keepAt keep l).length := by
    have hget : (keepAt keep l)[i]? = some l[i] := by
      rw [getElem?_keepAt l hkeep, List.getElem?_eq_getElem hi]
    exact (List.getElem?_eq_some_iff.mp hget).1
  rw [removeAt_eq_ok hlt, eraseIdx_keepAt l hkeep]

theorem removeEntry_keepAt (h : t.Aligned) (hs : s.tracked = t.keepAt keep)
    (hi : i < t.currentEnabledApps.length) (hkeep : ∀ j ≤ i, keep j = true) :
    removeEntry s i = .ok { s with tracked := t.keepAt fun j => keep j && j != i } := by
  obtain ⟨hid, hstring, hcolor, hblink, hon, hoff⟩ := h
  simp only [removeEntry, hs, TrackedTable.keepAt, removeAt_keepAt hi hkeep,
    removeAt_keepAt (hid ▸ hi) hkeep, removeAt_keepAt (hstring ▸ hi) hkeep,
    removeAt_keepAt (hcolor ▸ hi) hkeep, removeAt_keepAt (hblink ▸ hi) hkeep,
    removeAt_keepAt (hon ▸ hi) hkeep, removeAt_keepAt (hoff ▸ hi) hkeep, leaving_ok, ok_bind,
    eraseIdx_keepAt t.postedBy hkeep]
  rfl

/-- One round of the loop, at a position of the package below which nothing is deleted yet. -/
theorem removeLoop_round (h : t.Aligned) (hs : s.tracked = t.keepAt keep)
    (happ : t.currentEnabledApps[i]? = some n.packageName) (hkeep : ∀ j ≤ i, keep j = true)
    (is : List Nat) :
    removeLoop locale n s (i :: is) =
      removeLoop locale n
        (if t.matchesAt locale n i then
          { s with tracked := t.keepAt fun j => keep j && j != i } else s) is := by
  have hi : i < t.currentEnabledApps.length := (List.getElem?_eq_some_iff.mp happ).1
  have hid : i < t.currentEnabledID.length := h.1 ▸ hi
  have hstring : i < t.currentEnabledStringForApps.length := h.2.1 ▸ hi
  have hgetString : getAt s.tracked.currentEnabledStringForApps i =
      .ok t.currentEnabledStringForApps[i] := by
    apply getAt_eq_ok
    rw [hs, TrackedTable.keepAt, getElem?_keepAt _ hkeep, List.getElem?_eq_getElem hstring]
  have hgetID : getAt s.tracked.currentEnabledID i = .ok t.currentEnabledID[i] := by
    apply getAt_eq_ok
    rw [hs, TrackedTable.keepAt, getElem?_keepAt _ hkeep, List.getElem?_eq_getElem hid]
  rw [removeLoop, hgetString, leaving_ok, ok_bind, hgetID, leaving_ok, ok_bind,
    removeEntry_keepAt h hs hi hkeep, TrackedTable.matchesAt, happ,
    List.getElem?_eq_getElem hid, List.getElem?_eq_getElem hstring, Option.any_some]
  generalize t.currentEnabledStringForApps[i] = string
  generalize t.currentEnabledID[i] = id
  by_cases hsame : id = n.id
  · by_cases hempty : string.isEmpty
    · simp [hsame, hempty]
    · by_cases htitle : titleContains locale n.title string
      · simp [hsame, hempty, htitle]
      · simp [hsame, hempty, htitle]
  · simp [hsame]

section Below

variable {m : Nat → Bool} {b : Nat}

theorem below_succ_of_pos (hm : m b = true) :
    (fun j => (decide (j < b + 1) || !m j) && j != b) = fun j => decide (j < b) || !m j := by
  funext j
  rcases Nat.lt_trichotomy j b with hj | rfl | hj
  · simp [hj, Nat.lt_succ_of_lt hj, hj.ne]
  · simp [hm]
  · simp [hj.not_gt, hj.ne', Nat.not_lt.mpr (Nat.succ_le_of_lt hj)]

theorem below_succ_of_neg (hm : ¬ m b = true) :
    (fun j => decide (j < b + 1) || !m j) = fun j => decide (j < b) || !m j := by
  funext j
  rcases Nat.lt_trichotomy j b with hj | rfl | hj
  · simp [hj, Nat.lt_succ_of_lt hj]
  · simp [hm]
  · simp [hj.not_gt, Nat.not_lt.mpr (Nat.succ_le_of_lt hj)]

end Below

/-- The loop over the positions below `b`, when it is done with those from `b` on. -/
theorem removeLoop_keepAt (locale : DefaultLocale) (n : StatusBarNotification) (h : t.Aligned)
    (b : Nat) (hs : s.tracked = t.keepAt fun j => j < b || !t.matchesAt locale n j) :
    removeLoop locale n s
        ((List.range b).filter fun i => t.currentEnabledApps[i]? = some n.packageName).reverse =
      .ok { s with tracked := t.keepAt fun j => !t.matchesAt locale n j } := by
  induction b generalizing s with
  | zero =>
      simp only [Nat.not_lt_zero, decide_false, Bool.false_or] at hs
      show Except.ok s = _
      rw [← hs]
  | succ b ih =>
      rw [List.range_succ, List.filter_append, List.reverse_append]
      have hkeep : ∀ j ≤ b, (decide (j < b + 1) || !t.matchesAt locale n j) = true := by
        intro j hj
        rw [decide_eq_true (Nat.lt_succ_of_le hj), Bool.true_or]
      by_cases happ : t.currentEnabledApps[b]? = some n.packageName
      · rw [List.filter_cons_of_pos (by simpa using happ), List.filter_nil, List.reverse_singleton,
          List.singleton_append, removeLoop_round h hs happ hkeep]
        by_cases hmatch : t.matchesAt locale n b = true
        · rw [if_pos hmatch]
          apply ih
          rw [below_succ_of_pos hmatch]
        · rw [if_neg hmatch]
          apply ih
          rw [hs, below_succ_of_neg hmatch]
      · -- not a position of the package: the loop does not come to it, and it does not match
        have hmatch : ¬ t.matchesAt locale n b = true := by simp [TrackedTable.matchesAt, happ]
        rw [List.filter_cons_of_neg (by simpa using happ), List.filter_nil, List.reverse_nil,
          List.nil_append]
        apply ih
        rw [hs, below_succ_of_neg hmatch]

/-! ## The callback -/

/-- The state a callback ends in, whether it returns or throws. -/
def stateLeft : Outcome State State → State
  | .ok s => s
  | .error (_, s) => s

/-- Showing a command touches neither table and reads no list by index. -/
theorem setColor_frame (s : State) (c : Command) :
    (stateLeft (setColor s c)).tracked = s.tracked ∧
      ∀ s', setColor s c ≠ .error (.indexOutOfBounds, s') := by
  cases hset : setColor s c with
  | ok s' =>
      obtain ⟨-, led, rfl, -⟩ := setColor_spec hset
      exact ⟨rfl, by simp⟩
  | error failure =>
      obtain ⟨x, s'⟩ := failure
      obtain ⟨-, hx, htracked, -⟩ := setColor_error hset
      refine ⟨htracked, ?_⟩
      rintro s₁ h
      cases h
      rcases hx with hx | hx <;> cases hx

theorem lastTrackedCommand_ok (h : s.tracked.Aligned)
    (hpos : 0 < s.tracked.currentEnabledColorsForApps.length) :
    ∃ c, lastTrackedCommand s = .ok c := by
  obtain ⟨-, -, hcolor, hblink, hon, hoff⟩ := h
  unfold lastTrackedCommand
  dsimp only
  rw [getAt_of_lt "" (by omega), leaving_ok, ok_bind, getAt_of_lt false (by omega), leaving_ok,
    ok_bind, getAt_of_lt "" (by omega), leaving_ok, ok_bind, getAt_of_lt "" (by omega), leaving_ok,
    ok_bind]
  exact ⟨_, rfl⟩

/-- With no colour left there is nothing left. -/
theorem TrackedTable.Aligned.eq_empty (h : t.Aligned)
    (hnone : t.currentEnabledColorsForApps.length = 0) : t.lists = .empty := by
  obtain ⟨hid, hstring, hcolor, hblink, hon, hoff⟩ := h
  have happs : t.currentEnabledApps.length = 0 := by omega
  rw [happs, List.length_eq_zero_iff] at hid hstring hcolor hblink hon hoff
  rw [List.length_eq_zero_iff] at happs
  rw [lists, happs, hid, hstring, hcolor, hblink, hon, hoff]
  rfl

theorem below_length (locale : DefaultLocale) (n : StatusBarNotification) (t : TrackedTable) :
    (fun j => decide (j < t.currentEnabledApps.length) || !t.matchesAt locale n j) =
      fun _ => true := by
  funext j
  by_cases hj : j < t.currentEnabledApps.length
  · simp [hj]
  · have hnone : t.currentEnabledApps[j]? = none := List.getElem?_eq_none (by omega)
    simp [TrackedTable.matchesAt, hnone]

/-- What is done when the package is tracked: the matching positions go, and showing what is left
changes no list any more. -/
theorem removeNotification_keepAt (locale : DefaultLocale) (n : StatusBarNotification)
    (h : s.tracked.Aligned) :
    (stateLeft (removeNotification locale s n)).tracked.lists =
        (s.tracked.keepAt fun j => !s.tracked.matchesAt locale n j).lists ∧
      ∀ s', removeNotification locale s n ≠ .error (.indexOutOfBounds, s') := by
  have hkept := h.keepAt fun j => !s.tracked.matchesAt locale n j
  have hloop : removeLoop locale n s
      (indexOfMultiple s.tracked.currentEnabledApps n.packageName).reverse =
        .ok { s with tracked := s.tracked.keepAt fun j => !s.tracked.matchesAt locale n j } := by
    apply removeLoop_keepAt locale n h
    rw [below_length, TrackedTable.keepAt_all]
  rw [removeNotification]
  rw [hloop, ok_bind]
  by_cases hpos : (s.tracked.keepAt fun j =>
      !s.tracked.matchesAt locale n j).currentEnabledColorsForApps.length > 0
  · rw [if_pos hpos]
    obtain ⟨c, hc⟩ := lastTrackedCommand_ok
      (s := { s with tracked := s.tracked.keepAt fun j => !s.tracked.matchesAt locale n j })
      hkept hpos
    rw [hc, ok_bind]
    obtain ⟨htracked, hindex⟩ := setColor_frame
      { s with tracked := s.tracked.keepAt fun j => !s.tracked.matchesAt locale n j } c
    exact ⟨congrArg TrackedTable.lists htracked, hindex⟩
  · rw [if_neg hpos]
    obtain ⟨led, hoff, -⟩ := disableLed_spec
      { s with tracked := s.tracked.keepAt fun j => !s.tracked.matchesAt locale n j }
    rw [hoff, hkept.eq_empty (by omega)]
    exact ⟨rfl, by simp⟩

theorem matchesAt_of_not_tracked (h : ¬ t.currentEnabledApps.contains n.packageName) (j : Nat) :
    t.matchesAt locale n j = false := by
  have hne : t.currentEnabledApps[j]? ≠ some n.packageName := by
    intro hj
    apply h
    rw [List.contains_iff_mem]
    exact List.mem_of_getElem? hj
  simp [TrackedTable.matchesAt, hne]

/-- The charging colour is shown at the end, whatever came before. -/
theorem onNotificationRemoved_eq (locale : DefaultLocale) (s : State) (n : StatusBarNotification) :
    onNotificationRemoved locale s n =
      ((if s.tracked.currentEnabledApps.contains n.packageName then removeNotification locale s n
        else .ok s) >>= chargeIfIdle) := by
  rw [onNotificationRemoved]
  split <;> rfl

theorem chargeIfIdle_frame (o : Outcome State State) :
    (stateLeft (o >>= chargeIfIdle)).tracked = (stateLeft o).tracked ∧
      ∀ x s', (o >>= chargeIfIdle) = .error (x, s') → o = .error (x, s') := by
  cases o with
  | ok s₁ =>
      obtain ⟨led, hled, -⟩ := chargeIfIdle_spec s₁
      rw [ok_bind, hled]
      exact ⟨rfl, by simp⟩
  | error failure => exact ⟨rfl, fun x s' h => h⟩

/-- **The frame of a removal.** It never reads or deletes outside a list; whether it returns or a
command does not parse, the seven lists have lost the same positions, all of them with the package
and the id of the notification, and kept the others in their order. -/
theorem removal_frame (locale : DefaultLocale) (s : State) (n : StatusBarNotification)
    (h : s.tracked.Aligned) :
    (∀ s', onNotificationRemoved locale s n ≠ .error (.indexOutOfBounds, s')) ∧
    (stateLeft (onNotificationRemoved locale s n)).tracked.Aligned ∧
    ∃ keep : Nat → Bool,
      (∀ i, keep i = false → s.tracked.currentEnabledApps[i]? = some n.packageName ∧
        s.tracked.currentEnabledID[i]? = some n.id) ∧
      (stateLeft (onNotificationRemoved locale s n)).tracked.lists =
        (s.tracked.keepAt keep).lists := by
  have hbody :
      (stateLeft (onNotificationRemoved locale s n)).tracked.lists =
        (s.tracked.keepAt fun j => !s.tracked.matchesAt locale n j).lists ∧
      ∀ s', onNotificationRemoved locale s n ≠ .error (.indexOutOfBounds, s') := by
    rw [onNotificationRemoved_eq]
    by_cases htracked : s.tracked.currentEnabledApps.contains n.packageName = true
    · rw [if_pos htracked]
      obtain ⟨hlists, hindex⟩ := removeNotification_keepAt locale n h
      obtain ⟨hcharge, herror⟩ := chargeIfIdle_frame (removeNotification locale s n)
      refine ⟨by rw [hcharge, hlists], ?_⟩
      intro s' hs'
      exact hindex s' (herror _ s' hs')
    · rw [if_neg htracked]
      obtain ⟨hcharge, herror⟩ := chargeIfIdle_frame (.ok s)
      constructor
      · rw [hcharge]
        simp only [matchesAt_of_not_tracked htracked, Bool.not_false, TrackedTable.keepAt_all]
        rfl
      · intro s' hs'
        cases herror _ s' hs'
  obtain ⟨hlists, hindex⟩ := hbody
  refine ⟨hindex, ?_, fun j => !s.tracked.matchesAt locale n j, ?_, hlists⟩
  · rw [← TrackedTable.aligned_lists, hlists, TrackedTable.aligned_lists]
    exact h.keepAt _
  · intro i hi
    simp only [TrackedTable.matchesAt, Bool.not_eq_false', Bool.and_eq_true,
      decide_eq_true_eq] at hi
    exact hi.1

/-- Two tracked notifications, in lists that nothing is known of but their lengths. -/
def twoTracked : State :=
  { State.created (.withConfig "") with
    tracked := ⟨["app", "other"], [1, 1], ["", ""], ["FF0000", "red"], [false, true], ["0", "9"],
      ["0", "9"], []⟩ }

theorem removal_frame_twoTracked :
    (∀ s', onNotificationRemoved .ascii twoTracked (appNotification none "bar") ≠
      .error (.indexOutOfBounds, s')) ∧
    (stateLeft (onNotificationRemoved .ascii twoTracked
      (appNotification none "bar"))).tracked.Aligned := by
  obtain ⟨hindex, haligned, -⟩ :=
    removal_frame .ascii twoTracked (appNotification none "bar") (by decide)
  exact ⟨hindex, haligned⟩

end VendorRs.LedLightManager
