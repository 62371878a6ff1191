import VendorRs.OtaUpdate.Staging

/-!
# All of the packages, or nothing

A package that is missing or cannot be copied makes the handler return, so a command that is written
names everything that was selected. The other half is the variable `reboot`: it is set at the end of
the loop's body whether or not the package was selected, so that with nothing selected the handler
writes an empty command and reboots into the recovery. `all_or_nothing_iff` finds no other gap.

What happens to the copies is a parameter, `copied`, that a run has to follow. How long the handler
waits for `uncrypt` is not bounded, so its turns are counted without those that find the service
still running (`turns`); there are at most `Pc.rank` of them.
-/

namespace VendorRs.OtaUpdate

open Java Runs

variable {s s' : Sys} {e : Event} {evs : List Event} {i : Package} {io : Io}
  {copied : Package → Bool}

/-! ## What should hold -/

/-- The copy of each package succeeds or fails as `copied` says. -/
def CopiesAs (copied : Package → Bool) (s : Sys) : Event → Prop
  | .handler io => ∀ i, s.pc = .copy i → (io = .done ↔ copied i = true)
  | .init | .uncryptMaps | .uncryptExits => True

/-- The file of the package is there to be copied. -/
def Sys.found (s : Sys) (i : Package) : Bool := (s.files (originFile i)).isSome

/-- Something is selected, and everything selected is found and copied. -/
def Sys.Complete (s : Sys) (copied : Package → Bool) : Prop :=
  (∃ i, s.checkedItems i = true) ∧
    ∀ i, s.checkedItems i = true → s.found i = true ∧ copied i = true

/-- The handler has returned, or the device reboots. -/
def Sys.ended (s : Sys) : Prop := s.pc = .returned ∨ s.pc = .rebooted

/-- The turns of the handler left, at most, not counting those it waits in. -/
def Pc.rank : Pc → Nat
  | .deleteMap .update => 22
  | .checkOrigin .update => 21
  | .deleteDest .update => 20
  | .copy .update => 19
  | .setOta => 18
  | .setMap => 17
  | .start => 16
  | .poll => 15
  | .deleteMap .magisk => 14
  | .checkOrigin .magisk => 13
  | .deleteDest .magisk => 12
  | .copy .magisk => 11
  | .deleteMap .gapps => 10
  | .checkOrigin .gapps => 9
  | .deleteDest .gapps => 8
  | .copy .gapps => 7
  | .deleteMap .decrypt => 6
  | .checkOrigin .decrypt => 5
  | .deleteDest .decrypt => 4
  | .copy .decrypt => 3
  | .command => 2
  | .reboot => 1
  | .returned | .rebooted => 0

/-- A turn of the handler that gets it further. -/
def advances (s : Sys) : Event → Bool
  | .handler _ => s.pc ≠ .poll || contains s.svc "stopped"
  | .init | .uncryptMaps | .uncryptExits => false

/-- How many turns of the run get the handler further. -/
def turns : Sys → List Event → Nat
  | _, [] => 0
  | s, e :: evs =>
      match step s e with
      | .ok s' => (advances s e).toNat + turns s' evs
      | .error _ => 0

/-- After a run from `clicked` to `s'` the handler is at its end or can go on to it, and at the end
it has either done everything or neither written the command nor rebooted. -/
structure AllOrNothing (copied : Package → Bool) (clicked : Sys) (evs : List Event) (s' : Sys) :
    Prop where
  all : clicked.Complete copied → s'.ended →
    s'.pc = .rebooted ∧ s'.command = some (commandText clicked.checkedItems Package.all)
  nothing : ¬ clicked.Complete copied → s'.pc ≠ .rebooted ∧ s'.command = none
  ends : 22 ≤ turns clicked evs → s'.ended
  goesOn : ¬ s'.ended → ∀ io, ∃ s₁, step s' (.handler io) = .ok s₁

/-! ## The handler ends -/

theorem Pc.rank_after (i : Package) : (Pc.after i).rank < (Pc.copy i).rank := by
  cases i <;> decide

theorem Pc.rank_turn (i : Package) :
    (Pc.copy i).rank < (Pc.deleteDest i).rank ∧
      (Pc.deleteDest i).rank < (Pc.checkOrigin i).rank ∧
      (Pc.checkOrigin i).rank < (Pc.deleteMap i).rank := by
  cases i <;> decide

/-- A turn of the handler takes it nearer to its end, or finds `uncrypt` still running. -/
theorem handlerStep_rank (hok : handlerStep s io = .ok s') :
    s'.pc.rank < s.pc.rank ∨ (advances s (.handler io) = false ∧ s' = s) := by
  unfold handlerStep at hok
  cases hpc : s.pc <;> simp only [hpc] at hok <;> cases hok
  case deleteMap i =>
      left
      obtain ⟨hcopy, hdest, horigin⟩ := Pc.rank_turn i
      split
      · exact horigin
      · exact (Pc.rank_after i).trans (hcopy.trans (hdest.trans horigin))
  case checkOrigin i =>
      left
      dsimp only
      split
      · exact (Pc.rank_turn i).2.1
      · cases i <;> decide
  case deleteDest i => exact .inl (Pc.rank_turn i).1
  case copy i =>
      left
      cases io with
      | done =>
          simp only [Sys.copy]
          split
          · next hi =>
              subst hi
              exact (show Pc.setOta.rank < (Pc.copy .update).rank by decide)
          · exact Pc.rank_after i
      | failed => cases i <;> exact Nat.succ_pos _
      | partly => cases i <;> exact Nat.succ_pos _
  case poll =>
      split
      · left
        exact (show (Pc.after .update).rank < Pc.poll.rank by decide)
      · next hwait =>
          right
          exact ⟨by simpa [advances, hpc] using hwait, rfl⟩
  case command =>
      left
      split
      · exact (show Pc.reboot.rank < Pc.command.rank by decide)
      · exact (show Pc.returned.rank < Pc.command.rank by decide)
  all_goals exact .inl (Nat.lt_succ_self _)

/-- What `init` and `uncrypt` do leaves the handler where it is. -/
theorem step_pc (hok : step s e = .ok s') (he : ∀ io, e ≠ .handler io) :
    s'.pc = s.pc ∧ s'.command = s.command := by
  cases e with
  | handler io => exact absurd rfl (he io)
  | init => exact (initStep_command hok).symm
  | uncryptMaps => exact (uncryptMaps_command hok).symm
  | uncryptExits => exact (uncryptExits_command hok).symm

theorem turns_add_rank_le (h : endState step s evs = .ok s') :
    turns s evs + s'.pc.rank ≤ s.pc.rank := by
  induction evs generalizing s with
  | nil =>
      cases h
      simp [turns]
  | cons e evs ih =>
      obtain ⟨s₁, hok, h⟩ := endState_cons_ok h
      have htail := ih h
      have hstep : (advances s e).toNat + s₁.pc.rank ≤ s.pc.rank := by
        cases e with
        | handler io =>
            rcases handlerStep_rank hok with hlt | ⟨hwait, rfl⟩
            · have := Bool.toNat_le (advances s (.handler io))
              omega
            · simp [hwait]
        | init => simp [advances, (step_pc hok nofun).1]
        | uncryptMaps => simp [advances, (step_pc hok nofun).1]
        | uncryptExits => simp [advances, (step_pc hok nofun).1]
      have hturns : turns s (e :: evs) = (advances s e).toNat + turns s₁ evs := by
        simp only [turns, hok]
      omega

theorem ended_of_rank (h : s.pc.rank = 0) : s.ended := by
  unfold Sys.ended
  cases hpc : s.pc with
  | returned => exact .inl rfl
  | rebooted => exact .inr rfl
  | deleteMap i => cases i <;> simp [hpc, Pc.rank] at h
  | checkOrigin i => cases i <;> simp [hpc, Pc.rank] at h
  | deleteDest i => cases i <;> simp [hpc, Pc.rank] at h
  | copy i => cases i <;> simp [hpc, Pc.rank] at h
  | _ => simp [hpc, Pc.rank] at h

/-- Until then it has a step to take. -/
theorem handlerStep_of_going (h : ¬ s.ended) (io : Io) :
    ∃ s', step s (.handler io) = .ok s' := by
  show ∃ s', handlerStep s io = .ok s'
  unfold handlerStep
  cases hpc : s.pc with
  | returned => exact absurd (.inl hpc) h
  | rebooted => exact absurd (.inr hpc) h
  | _ => exact ⟨_, rfl⟩

/-! ## What the handler has found out -/

/-- The packages behind the handler: not selected, or found and copied. -/
def Pc.passed : Pc → List Package
  | .deleteMap i | .checkOrigin i | .deleteDest i | .copy i => i.before
  | .setOta | .setMap | .start | .poll => [.update]
  | .command | .reboot | .rebooted => Package.all
  | .returned => []

/-- The handler has come to `s` from `c`. -/
structure Verdict (copied : Package → Bool) (c s : Sys) : Prop where
  items : s.checkedItems = c.checkedItems
  found : ∀ i, s.found i = c.found i
  passed : ∀ i ∈ s.pc.passed, c.checkedItems i = true → c.found i = true ∧ copied i = true
  present : ∀ i, s.pc = .deleteDest i ∨ s.pc = .copy i → c.found i = true
  returned : s.pc = .returned →
    ∃ i, c.checkedItems i = true ∧ ¬ (c.found i = true ∧ copied i = true)
  written : s.pc = .reboot ∨ s.pc = .rebooted →
    s.command = some (commandText c.checkedItems Package.all)
  unwritten : s.pc ≠ .reboot → s.pc ≠ .rebooted → s.command = none

theorem originFile_ne (i j : Package) :
    originFile i ≠ cacheRecoveryMap j ∧ originFile i ≠ destFile j := by
  cases i <;> cases j <;> decide

theorem found_setFile {path : String} {file : Option Origin} (h : originFile i ≠ path) :
    (s.setFile path file).found i = s.found i := by
  rw [Sys.found, setFile_of_ne h, Sys.found]

variable {c : Sys}

theorem done_ne_none {pc : Pc} {packages : List Package} (hpc : s.pc = pc)
    (hdone : pc.done = some packages) : s.pc.done ≠ none := by
  rw [hpc, hdone]
  exact Option.some_ne_none _

/-- Nothing is written while the handler is at it. -/
theorem Verdict.going (h : Verdict copied c s) (hgoing : s.pc.done ≠ none) : s.command = none := by
  apply h.unwritten
  · intro hpc
    rw [hpc] at hgoing
    exact hgoing rfl
  · intro hpc
    rw [hpc] at hgoing
    exact hgoing rfl

/-- A step to a place where nothing more is known of the packages. -/
theorem Verdict.goto (h : Verdict copied c s) (hitems : s'.checkedItems = s.checkedItems)
    (hfound : ∀ i, s'.found i = s.found i) (hcommand : s'.command = s.command)
    (hpassed : ∀ i ∈ s'.pc.passed, i ∉ s.pc.passed → c.checkedItems i = true →
      c.found i = true ∧ copied i = true)
    (hpresent : ∀ i, s'.pc = .deleteDest i ∨ s'.pc = .copy i → c.found i = true)
    (hgoing : s.pc.done ≠ none) (hgoing' : s'.pc.done ≠ none) : Verdict copied c s' where
  items := hitems.trans h.items
  found := by
    intro i
    rw [hfound, h.found]
  passed := by
    intro i hi hchecked
    by_cases hbefore : i ∈ s.pc.passed
    · exact h.passed i hbefore hchecked
    · exact hpassed i hi hbefore hchecked
  present := hpresent
  returned := by
    intro hpc
    rw [hpc] at hgoing'
    exact absurd rfl hgoing'
  written := by
    rintro (hpc | hpc)
    · rw [hpc] at hgoing'
      exact absurd rfl hgoing'
    · rw [hpc] at hgoing'
      exact absurd rfl hgoing'
  unwritten := by
    intro _ _
    rw [hcommand, h.going hgoing]

/-- A step within one package's turn. -/
theorem Verdict.within (h : Verdict copied c s) (hitems : s'.checkedItems = s.checkedItems)
    (hfound : ∀ i, s'.found i = s.found i) (hcommand : s'.command = s.command)
    (hpassed : s'.pc.passed = s.pc.passed)
    (hpresent : ∀ i, s'.pc = .deleteDest i ∨ s'.pc = .copy i → c.found i = true)
    (hgoing : s.pc.done ≠ none) (hgoing' : s'.pc.done ≠ none) : Verdict copied c s' := by
  refine h.goto hitems hfound hcommand ?_ hpresent hgoing hgoing'
  intro i hi hnot
  rw [hpassed] at hi
  exact absurd hi hnot

/-- The handler gives up on a package that is selected. -/
theorem Verdict.stop (h : Verdict copied c s) (hitems : s'.checkedItems = s.checkedItems)
    (hfound : ∀ i, s'.found i = s.found i) (hcommand : s'.command = s.command)
    (hpc : s'.pc = .returned) (hgoing : s.pc.done ≠ none) (hchecked : c.checkedItems i = true)
    (hbad : ¬ (c.found i = true ∧ copied i = true)) : Verdict copied c s' where
  items := hitems.trans h.items
  found := by
    intro i
    rw [hfound, h.found]
  passed := by
    rw [hpc]
    nofun
  present := by
    rw [hpc]
    nofun
  returned := fun _ => ⟨i, hchecked, hbad⟩
  written := by
    rw [hpc]
    nofun
  unwritten := by
    intro _ _
    rw [hcommand, h.going hgoing]

theorem Package.mem_before_or (i : Package) :
    ∀ j ∈ (Pc.after i).passed, j ∈ i.before ∨ j = i := by
  cases i <;> decide

/-- The next package's turn, when this one needs nothing or has got it. -/
theorem Verdict.next (h : Verdict copied c s) (hitems : s'.checkedItems = s.checkedItems)
    (hfound : ∀ i, s'.found i = s.found i) (hcommand : s'.command = s.command)
    (hgoing : s.pc.done ≠ none) (hbefore : ∀ j ∈ i.before, j ∈ s.pc.passed)
    (hgood : c.checkedItems i = true → c.found i = true ∧ copied i = true) :
    Verdict copied c (s'.next i) := by
  refine h.goto hitems hfound hcommand ?_ ?_ hgoing ?_
  · intro j hj hnot
    rcases Package.mem_before_or i j hj with hj | rfl
    · exact absurd (hbefore j hj) hnot
    · exact hgood
  · intro j hj
    cases i <;> rcases hj with hj | hj <;> cases hj
  · show (Pc.after i).done ≠ none
    rw [Pc.done_after]
    nofun

theorem Verdict.deleteMap (h : Verdict copied c s) (hpc : s.pc = .deleteMap i) :
    Verdict copied c (if s.checkedItems i then
      { s.delete (cacheRecoveryMap i) io with pc := .checkOrigin i }
    else (s.delete (cacheRecoveryMap i) io).next i) := by
  have hgoing := done_ne_none hpc rfl
  have hfound : ∀ j, (s.delete (cacheRecoveryMap i) io).found j = s.found j := by
    intro j
    exact found_setFile (originFile_ne j i).1
  split
  · exact h.within rfl hfound rfl (by rw [hpc]; rfl) (by simp) hgoing (Option.some_ne_none _)
  · next hunchecked =>
      refine h.next rfl hfound rfl hgoing ?_ ?_
      · rw [hpc]
        exact fun j hj => hj
      · intro hchecked
        rw [← h.items] at hchecked
        exact absurd hchecked hunchecked

theorem Verdict.checkOrigin (h : Verdict copied c s) (hpc : s.pc = .checkOrigin i)
    (hselected : s.checkedItems i = true) :
    Verdict copied c
      { s with pc := if (s.files (originFile i)).isSome then .deleteDest i else .returned } := by
  have hgoing := done_ne_none hpc rfl
  by_cases hfile : (s.files (originFile i)).isSome = true
  · simp only [hfile, if_true]
    refine h.within rfl (fun _ => rfl) rfl (by rw [hpc]; rfl) ?_ hgoing (Option.some_ne_none _)
    rintro j (hj | hj)
    · cases hj
      rw [← h.found]
      exact hfile
    · cases hj
  · simp only [hfile]
    refine h.stop rfl (fun _ => rfl) rfl rfl hgoing (h.items ▸ hselected) ?_
    rintro ⟨hfound, -⟩
    rw [← h.found] at hfound
    exact hfile hfound

theorem Verdict.deleteDest (h : Verdict copied c s) (hpc : s.pc = .deleteDest i) :
    Verdict copied c { s.delete (destFile i) io with pc := .copy i } := by
  have hfound : ∀ j, (s.delete (destFile i) io).found j = s.found j := by
    intro j
    exact found_setFile (originFile_ne j i).2
  refine h.within rfl hfound rfl (by rw [hpc]; rfl) ?_ (done_ne_none hpc rfl)
    (Option.some_ne_none _)
  rintro j (hj | hj)
  · cases hj
  · cases hj
    exact h.present _ (.inl hpc)

theorem Verdict.copy (h : Verdict copied c s) (hpc : s.pc = .copy i)
    (hselected : s.checkedItems i = true) (hcopied : io = .done ↔ copied i = true) :
    Verdict copied c (s.copy i io) := by
  have hgoing := done_ne_none hpc rfl
  have hfound : ∀ j, (s.setFile (destFile i) (some .invocation)).found j = s.found j := by
    intro j
    exact found_setFile (originFile_ne j i).2
  cases io with
  | done =>
      have hgood : c.found i = true ∧ copied i = true :=
        ⟨h.present i (.inr hpc), hcopied.mp rfl⟩
      simp only [Sys.copy]
      split
      · next hi =>
          subst hi
          refine h.goto rfl hfound rfl ?_ (by simp) hgoing (Option.some_ne_none _)
          intro j hj _ _
          rw [List.mem_singleton.mp hj]
          exact hgood
      · refine h.next rfl hfound rfl hgoing ?_ ?_
        · rw [hpc]
          exact fun j hj => hj
        · intro _
          exact hgood
  | failed =>
      refine h.stop rfl (fun _ => rfl) rfl rfl hgoing (h.items ▸ hselected) ?_
      rintro ⟨-, hgood⟩
      cases hcopied.mpr hgood
  | partly =>
      refine h.stop rfl hfound rfl rfl hgoing (h.items ▸ hselected) ?_
      rintro ⟨-, hgood⟩
      cases hcopied.mpr hgood

/-- The command is written: every package is behind the handler. -/
theorem Verdict.command (h : Verdict copied c s) (hpc : s.pc = .command)
    (htext : s.commandString = commandText s.checkedItems Package.all) :
    Verdict copied c
      { s.setFile "/cache/recovery/command" (some .invocation) with
        command := some s.commandString, pc := .reboot } where
  items := h.items
  found := by
    intro j
    rw [← h.found]
    show (s.setFile "/cache/recovery/command" (some .invocation)).found j = s.found j
    exact found_setFile (by cases j <;> decide)
  passed := by
    intro j hj
    apply h.passed
    rw [hpc]
    exact hj
  present := by simp
  returned := by simp
  written := by
    intro _
    show some s.commandString = _
    rw [htext, h.items]
  unwritten := fun hne => absurd rfl hne

theorem Verdict.reboot (h : Verdict copied c s) (hpc : s.pc = .reboot) :
    Verdict copied c { s with pc := .rebooted } where
  items := h.items
  found := h.found
  passed := by
    intro j hj
    apply h.passed
    rw [hpc]
    exact hj
  present := by simp
  returned := by simp
  written := fun _ => h.written (.inl hpc)
  unwritten := fun _ hne => absurd rfl hne

theorem Verdict.handler (h : Verdict copied c s) (hinv : Inv s)
    (hcopies : CopiesAs copied s (.handler io)) (hok : handlerStep s io = .ok s') :
    Verdict copied c s' := by
  unfold handlerStep at hok
  cases hpc : s.pc <;> simp only [hpc] at hok <;> cases hok
  case deleteMap i => exact h.deleteMap hpc
  case checkOrigin i => exact h.checkOrigin hpc (hinv.staged.selected i (by rw [hpc]; rfl))
  case deleteDest i => exact h.deleteDest hpc
  case copy i => exact h.copy hpc (hinv.staged.selected i (by rw [hpc]; rfl)) (hcopies i hpc)
  case poll =>
      have hgoing := done_ne_none hpc rfl
      have hpassed : s.pc.passed = [.update] := by rw [hpc]; rfl
      split
      · refine h.next rfl (fun _ => rfl) rfl hgoing (by simp [Package.before]) ?_
        exact h.passed .update (by rw [hpassed]; exact List.mem_singleton_self _)
      · exact h
  case command =>
      have hlists := hinv.staged.lists Package.all (by rw [hpc]; rfl)
      rw [if_pos (hinv.staged.wanted hpc)]
      exact h.command hpc hlists.text
  case reboot => exact h.reboot hpc
  -- `setOta`, `setMap` and `start`: the update is copied, and nothing is found out
  all_goals
    have hgoing := done_ne_none hpc rfl
    exact h.within rfl (fun _ => rfl) rfl (by rw [hpc]; rfl) (by simp) hgoing
      (Option.some_ne_none _)

/-! ## Whole runs -/

theorem verdict_self (hpc : s.pc = .deleteMap .update) (hcommand : s.command = none) :
    Verdict copied s s where
  items := rfl
  found := fun _ => rfl
  passed := by
    rw [hpc]
    nofun
  present := by
    rw [hpc]
    rintro i (hi | hi) <;> cases hi
  returned := by
    rw [hpc]
    nofun
  written := by
    rw [hpc]
    rintro (h | h) <;> cases h
  unwritten := fun _ _ => hcommand

/-- `init` and `uncrypt` touch neither the packages to be copied nor anything of the handler's. -/
theorem Verdict.frame (h : Verdict copied c s) (hpc : s'.pc = s.pc)
    (hitems : s'.checkedItems = s.checkedItems) (hcommand : s'.command = s.command)
    (hfound : ∀ i, s'.found i = s.found i) : Verdict copied c s' where
  items := hitems.trans h.items
  found := by
    intro i
    rw [hfound, h.found]
  passed := by
    rw [hpc]
    exact h.passed
  present := by
    rw [hpc]
    exact h.present
  returned := by
    rw [hpc]
    exact h.returned
  written := by
    rw [hpc, hcommand]
    exact h.written
  unwritten := by
    rw [hpc, hcommand]
    exact h.unwritten

theorem Verdict.step (h : Verdict copied c s) (hinv : Inv s) (hcopies : CopiesAs copied s e)
    (hok : step s e = .ok s') : Verdict copied c s' := by
  cases e with
  | handler io => exact h.handler hinv hcopies hok
  | init =>
      obtain ⟨origin, pending, -, ⟨-, rfl⟩ | ⟨-, rfl⟩⟩ := initStep_cases hok
      · exact h.frame rfl rfl rfl fun _ => rfl
      · exact h.frame rfl rfl rfl fun _ => rfl
  | uncryptMaps =>
      obtain ⟨run, hrunning, -, rfl⟩ := uncryptMaps_cases hok
      refine h.frame rfl rfl rfl ?_
      intro i
      show (s.setFile run.map (some run.origin)).found i = s.found i
      apply found_setFile
      rcases hinv.asked.run_map run hrunning with hmap | hmap
      · rw [hmap]
        cases i <;> decide
      · rw [hmap]
        exact (originFile_ne i .update).1
  | uncryptExits =>
      obtain ⟨-, rfl⟩ := uncryptExits_cases hok
      exact h.frame rfl rfl rfl fun _ => rfl

/-- With something selected, the handler comes to all of it or to nothing. -/
theorem Verdict.allOrNothing (h : Verdict copied c s') (hsome : ∃ i, c.checkedItems i = true) :
    (c.Complete copied → s'.ended →
      s'.pc = .rebooted ∧ s'.command = some (commandText c.checkedItems Package.all)) ∧
    (¬ c.Complete copied → s'.pc ≠ .rebooted ∧ s'.command = none) := by
  have hall : ∀ i, i ∈ Package.all := by
    intro i
    cases i <;> decide
  constructor
  · rintro ⟨-, hcomplete⟩ (hpc | hpc)
    · obtain ⟨i, hchecked, hbad⟩ := h.returned hpc
      exact absurd (hcomplete i hchecked) hbad
    · exact ⟨hpc, h.written (.inr hpc)⟩
  · intro hincomplete
    have hnever : ∀ {pc : Pc}, s'.pc = pc → pc.passed ≠ Package.all := by
      rintro pc rfl hpassed
      apply hincomplete
      refine ⟨hsome, ?_⟩
      intro i hchecked
      exact h.passed i (hpassed ▸ hall i) hchecked
    refine ⟨fun hpc => hnever hpc rfl, h.unwritten ?_ ?_⟩
    · intro hpc
      exact hnever hpc rfl
    · intro hpc
      exact hnever hpc rfl

/-- With nothing selected four packages are passed over, each of them setting `reboot`. -/
theorem nothing_selected (present : String → Bool) (usedBefore : Bool) (svc : String)
    (pendingBefore : Nat) (runningBefore : Option Bool) (copied : Package → Bool) :
    EveryStep step (CopiesAs copied)
      (.clicked (fun _ => false) present usedBefore svc pendingBefore runningBefore)
      (List.replicate 6 (.handler .done)) ∧
    ∃ s', endState step
        (.clicked (fun _ => false) present usedBefore svc pendingBefore runningBefore)
        (List.replicate 6 (.handler .done)) = .ok s' ∧ s'.pc = .rebooted := by
  refine ⟨⟨nofun, nofun, nofun, nofun, nofun, nofun, trivial⟩, _, rfl, rfl⟩

/-- **The handler does everything that was asked, or nothing**, in every run and whatever fails,
exactly if something was asked at all. -/
theorem all_or_nothing_iff (checkedItems : Package → Bool) (present : String → Bool)
    (usedBefore : Bool) (svc : String) (pendingBefore : Nat) (runningBefore : Option Bool)
    (copied : Package → Bool) :
    (∀ evs s', EveryStep step (CopiesAs copied)
        (.clicked checkedItems present usedBefore svc pendingBefore runningBefore) evs →
      endState step (.clicked checkedItems present usedBefore svc pendingBefore runningBefore) evs =
        .ok s' →
      AllOrNothing copied
        (.clicked checkedItems present usedBefore svc pendingBefore runningBefore) evs s') ↔
      ∃ i, checkedItems i = true := by
  have hinv := inv_clicked checkedItems present usedBefore svc pendingBefore runningBefore
  generalize hclicked :
    Sys.clicked checkedItems present usedBefore svc pendingBefore runningBefore = c at hinv
  have hitems : c.checkedItems = checkedItems := by rw [← hclicked]; rfl
  have hpc : c.pc = .deleteMap .update := by rw [← hclicked]; rfl
  have hcommand : c.command = none := by rw [← hclicked]; rfl
  constructor
  · intro hall
    by_contra hnone
    have hnothing : checkedItems = fun _ => false := by
      funext i
      rw [← Bool.not_eq_true]
      intro hchecked
      exact hnone ⟨i, hchecked⟩
    subst hnothing hclicked
    obtain ⟨hcopies, s', hend, hrebooted⟩ :=
      nothing_selected present usedBefore svc pendingBefore runningBefore copied
    refine ((hall _ s' hcopies hend).nothing ?_).1 hrebooted
    rintro ⟨hsome, -⟩
    exact hnone hsome
  · intro hsome evs s' hcopies hend
    have hverdict : Inv s' ∧ Verdict copied c s' := by
      apply hcopies.endState (P := fun s => Inv s ∧ Verdict copied c s) ?_
        ⟨hinv, verdict_self hpc hcommand⟩ hend
      rintro s e s₁ ⟨hi, hv⟩ hcopy hok
      exact ⟨hi.step hok, hv.step hi hcopy hok⟩
    obtain ⟨hdone, hnothing⟩ := hverdict.2.allOrNothing (hitems ▸ hsome)
    refine ⟨hdone, hnothing, ?_, handlerStep_of_going⟩
    intro hturns
    have hrank := turns_add_rank_le hend
    rw [hpc] at hrank
    apply ended_of_rank
    have : (Pc.deleteMap .update).rank = 22 := rfl
    omega

/-- OK with nothing selected: the handler writes an empty command and reboots. -/
theorem empty_command_reboots :
    ∃ s', endState step (.clicked (fun _ => false) (fun _ => false) false "" 0 none)
        (List.replicate 6 (.handler .done)) = .ok s' ∧
      s'.pc = .rebooted ∧ s'.command = some "" ∧
      ¬ AllOrNothing (fun _ => true)
        (.clicked (fun _ => false) (fun _ => false) false "" 0 none)
        (List.replicate 6 (.handler .done)) s' := by
  refine ⟨_, rfl, rfl, rfl, ?_⟩
  intro h
  apply (h.nothing ?_).1 rfl
  rintro ⟨⟨i, hi⟩, -⟩
  cases hi

end VendorRs.OtaUpdate
