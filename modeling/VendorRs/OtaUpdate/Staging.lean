import VendorRs.Lib.Runs
import VendorRs.OtaUpdate.Basic

/-!
# What the command names is there

The copies are made by the handler itself, so when the command is written they are there. The map is
made by `uncrypt`, and the handler takes the word "stopped" for it, which `init.svc.uncrypt_custom`
may have said all along: before `init` has come to the request, or after a run that failed.
`stagesAll_iff` finds this to be the only gap. Whatever the three parties do and in whatever order,
everything the command names is there and made for it, if and only if by then the run that was asked
for has put its map in place.
-/

namespace VendorRs.OtaUpdate

open Java Runs

/-! ## What should hold, and when it does -/

/-- When the command is written, each package it names is there, and is this call's. -/
def StagesAll (s : Sys) (e : Event) : Prop :=
  ∀ s', step s e = .ok s' → s.command = none →
    ∀ text ∈ s'.command, ∀ path ∈ packagePaths text, s'.files path = some .invocation

/-- The handler does not write a command with the update selected before the run it asked for has
put its map in place. -/
def MapAwaited (s : Sys) : Event → Prop
  | .handler _ => s.pc = .command → s.checkedItems .update = true → .invocation ∈ s.mapped
  | _ => True

instance (s : Sys) (e : Event) : Decidable (StagesAll s e) :=
  decidableForallOk (step s e) fun s' => s.command = none →
    ∀ text ∈ s'.command, ∀ path ∈ packagePaths text, s'.files path = some .invocation

instance (s : Sys) : ∀ e, Decidable (MapAwaited s e)
  | .handler _ => inferInstanceAs (Decidable (_ → _ → _))
  | .init | .uncryptMaps | .uncryptExits => inferInstanceAs (Decidable True)

variable {s s' : Sys} {e : Event} {i : Package} {io : Io}

/-! ## Paths -/

theorem cacheRecoveryMap_ne (hi : i ≠ .update) : cacheRecoveryMap .update ≠ cacheRecoveryMap i := by
  cases i with
  | update => exact absurd rfl hi
  | _ => decide

theorem cacheRecoveryMap_ne_destFile (i : Package) : cacheRecoveryMap .update ≠ destFile i := by
  cases i <;> decide

theorem cacheRecovery_ne_map (i j : Package) : cacheRecovery i ≠ cacheRecoveryMap j := by
  cases i <;> cases j <;> decide

theorem cacheRecovery_ne_destFile {i j : Package} (h : i ≠ j) : cacheRecovery i ≠ destFile j := by
  cases i <;> cases j <;> first | exact absurd rfl h | decide

theorem setFile_of_ne {path p : String} {file : Option Origin} (h : p ≠ path) :
    (s.setFile path file).files p = s.files p := if_neg h

theorem setFile_self {path : String} {file : Option Origin} :
    (s.setFile path file).files path = file := if_pos rfl

/-! ## What `init` and `uncrypt` do -/

theorem initStep_cases (hok : initStep s = .ok s') :
    ∃ origin pending, s.pending = origin :: pending ∧
      (s.running ≠ none ∧ s' = { s with pending := pending } ∨
        s.running = none ∧ s' = { s with
          pending := pending
          running := some ⟨origin, s.map, false⟩
          svc := "running" }) := by
  unfold initStep at hok
  split at hok
  · cases hok
  · next origin pending hpending =>
      refine ⟨origin, pending, hpending, ?_⟩
      split at hok <;> cases hok
      · next run hrunning =>
          left
          rw [hrunning]
          exact ⟨Option.some_ne_none run, rfl⟩
      · next hnone => exact .inr ⟨hnone, rfl⟩

theorem uncryptMaps_cases (hok : uncryptMaps s = .ok s') :
    ∃ run, s.running = some run ∧ run.mapped = false ∧
      s' = { s.setFile run.map (some run.origin) with
        running := some { run with mapped := true }
        mapped := run.origin :: s.mapped } := by
  unfold uncryptMaps at hok
  split at hok
  · next run hrunning =>
      split at hok <;> cases hok
      next hmapped => exact ⟨run, hrunning, Bool.eq_false_iff.mpr hmapped, rfl⟩
  · cases hok

theorem uncryptExits_cases (hok : uncryptExits s = .ok s') :
    s.running ≠ none ∧ s' = { s with running := none, svc := "stopped" } := by
  unfold uncryptExits at hok
  split at hok <;> cases hok
  next run hrunning =>
    rw [hrunning]
    exact ⟨Option.some_ne_none run, rfl⟩

/-! ## The run that was asked for -/

/-- The request has not been made yet. -/
def Pc.unasked : Pc → Bool
  | .deleteMap .update | .checkOrigin .update | .deleteDest .update | .copy .update => true
  | .setOta | .setMap | .start => true
  | _ => false

/-- What is known of the request, of the run it leads to and of the map. -/
structure Asked (s : Sys) : Prop where
  unasked : s.pc.unasked = true →
    .invocation ∉ s.pending ∧ (∀ run ∈ s.running, run.origin = .earlier) ∧ .invocation ∉ s.mapped
  /-- It is the last request. -/
  last : .invocation ∉ s.pending.dropLast
  /-- It is the last run. -/
  alone : ((∃ run ∈ s.running, run.origin = .invocation) ∨ .invocation ∈ s.mapped) →
    s.pending = [] ∧ ∀ run ∈ s.running, run.origin = .invocation
  map_prop : s.map = "" ∨ s.map = cacheRecoveryMap .update
  start_map : s.pc = .start → s.map = cacheRecoveryMap .update
  asked_map : .invocation ∈ s.pending → s.map = cacheRecoveryMap .update
  run_map : ∀ run ∈ s.running, run.map = "" ∨ run.map = cacheRecoveryMap .update
  own_map : ∀ run ∈ s.running, run.origin = .invocation → run.map = cacheRecoveryMap .update
  map_iff : s.files (cacheRecoveryMap .update) = some .invocation ↔ .invocation ∈ s.mapped

/-- A step that is neither about the request nor anything `init` or `uncrypt` does. -/
theorem Asked.frame (h : Asked s) (hpending : s'.pending = s.pending)
    (hrunning : s'.running = s.running) (hmapped : s'.mapped = s.mapped) (hmap : s'.map = s.map)
    (hfile : s'.files (cacheRecoveryMap .update) = s.files (cacheRecoveryMap .update))
    (hpc : s'.pc.unasked = true → s.pc.unasked = true) (hstart : s'.pc ≠ .start) : Asked s' := by
  obtain ⟨hunasked, hlast, halone, hprop, -, hasked, hrun, hown, hiff⟩ := h
  refine ⟨?_, ?_, ?_, ?_, ?_, ?_, ?_, ?_, ?_⟩
  · intro hu
    rw [hpending, hrunning, hmapped]
    exact hunasked (hpc hu)
  · rwa [hpending]
  · rwa [hpending, hrunning, hmapped]
  · rwa [hmap]
  · intro hs
    exact absurd hs hstart
  · rwa [hpending, hmap]
  · rwa [hrunning]
  · rwa [hrunning]
  · rwa [hfile, hmapped]

theorem Asked.deleteMap (h : Asked s) (hpc : s.pc = .deleteMap i) :
    Asked (s.delete (cacheRecoveryMap i) io) := by
  by_cases hi : i = .update
  · -- there is no map of this call to delete yet
    subst hi
    obtain ⟨hpending, hrunning, hmapped⟩ := h.unasked (by rw [hpc]; rfl)
    have hfile : (s.delete (cacheRecoveryMap .update) io).files (cacheRecoveryMap .update) ≠
        some .invocation := by
      rw [Sys.delete, setFile_self]
      split
      · nofun
      · intro hinv
        exact hmapped (h.map_iff.mp hinv)
    exact { h with map_iff := iff_of_false hfile hmapped }
  · refine h.frame rfl rfl rfl rfl (setFile_of_ne (cacheRecoveryMap_ne hi)) id ?_
    show s.pc ≠ .start
    rw [hpc]
    nofun

theorem Asked.copy (h : Asked s) (hpc : s.pc = .copy i) : Asked (s.copy i io) := by
  have hsame : (s.setFile (destFile i) (some .invocation)).files (cacheRecoveryMap .update) =
      s.files (cacheRecoveryMap .update) := setFile_of_ne (cacheRecoveryMap_ne_destFile i)
  cases io with
  | done =>
      simp only [Sys.copy]
      split
      · next hi =>
          refine h.frame rfl rfl rfl rfl hsame ?_ nofun
          intro _
          rw [hpc, hi]
          rfl
      · refine h.frame rfl rfl rfl rfl hsame ?_ ?_ <;> cases i <;> nofun
  | failed => exact h.frame rfl rfl rfl rfl rfl nofun nofun
  | partly => exact h.frame rfl rfl rfl rfl hsame nofun nofun

theorem Asked.start (h : Asked s) (hpc : s.pc = .start) :
    Asked { s with pending := s.pending ++ [.invocation], pc := .poll } := by
  obtain ⟨hpending, hrunning, hmapped⟩ := h.unasked (by rw [hpc]; rfl)
  exact { h with
    unasked := nofun
    last := by
      rw [List.dropLast_concat]
      exact hpending
    alone := by
      rintro (⟨run, hrun, horigin⟩ | hin)
      · rw [hrunning run hrun] at horigin
        cases horigin
      · exact absurd hin hmapped
    start_map := nofun
    asked_map := fun _ => h.start_map hpc }

/-- The next package's turn. -/
theorem Asked.next (h : Asked s) (i : Package) : Asked (s.next i) := by
  refine h.frame rfl rfl rfl rfl rfl ?_ ?_ <;> cases i <;> nofun

theorem Asked.handler (h : Asked s) (hok : handlerStep s io = .ok s') : Asked s' := by
  unfold handlerStep at hok
  cases hpc : s.pc <;> simp only [hpc] at hok <;> cases hok
  case deleteMap i =>
      have hdeleted : Asked (s.delete (cacheRecoveryMap i) io) := h.deleteMap hpc
      split
      · refine hdeleted.frame rfl rfl rfl rfl rfl ?_ nofun
        intro hu
        show s.pc.unasked = true
        rw [hpc]
        cases i <;> exact hu
      · exact hdeleted.next i
  case checkOrigin i =>
      split
      · refine h.frame rfl rfl rfl rfl rfl ?_ nofun
        intro hu
        rw [hpc]
        cases i <;> exact hu
      · exact h.frame rfl rfl rfl rfl rfl nofun nofun
  case deleteDest i =>
      refine h.frame rfl rfl rfl rfl (setFile_of_ne (cacheRecoveryMap_ne_destFile i)) ?_ nofun
      intro hu
      rw [hpc]
      cases i <;> exact hu
  case copy i => exact h.copy hpc
  case setOta =>
      refine h.frame rfl rfl rfl rfl rfl ?_ nofun
      intro _
      rw [hpc]
      rfl
  case setMap =>
      exact { h with
        unasked := by
          intro _
          exact h.unasked (by rw [hpc]; rfl)
        map_prop := .inr rfl
        start_map := fun _ => rfl
        asked_map := fun _ => rfl }
  case start => exact h.start hpc
  case poll =>
      split
      · exact Asked.next (s := s.append .update) { h with } .update
      · exact h
  case command =>
      split
      · have hsame : (s.setFile "/cache/recovery/command" (some .invocation)).files
            (cacheRecoveryMap .update) = s.files (cacheRecoveryMap .update) :=
          setFile_of_ne (by decide)
        exact h.frame rfl rfl rfl rfl hsame nofun nofun
      · exact h.frame rfl rfl rfl rfl rfl nofun nofun
  case reboot => exact h.frame rfl rfl rfl rfl rfl nofun nofun

section Requests

variable {origin : Origin} {pending : List Origin}

theorem mem_pending (hpending : s.pending = origin :: pending) : ∀ o ∈ pending, o ∈ s.pending := by
  intro o ho
  rw [hpending]
  exact List.mem_cons_of_mem _ ho

theorem Asked.last_tail (h : Asked s) (hpending : s.pending = origin :: pending) :
    .invocation ∉ pending.dropLast := by
  intro hin
  apply h.last
  rw [hpending]
  cases pending with
  | nil => cases hin
  | cons o pending => exact List.mem_cons_of_mem _ hin

/-- While a request is pending, the run that was asked for has not begun. -/
theorem Asked.not_begun (h : Asked s) (hpending : s.pending = origin :: pending) :
    ¬ ((∃ run ∈ s.running, run.origin = .invocation) ∨ .invocation ∈ s.mapped) := by
  intro hrun
  obtain ⟨hnil, -⟩ := h.alone hrun
  rw [hpending] at hnil
  cases hnil

/-- A run is under way, and the request is dropped. -/
theorem Asked.dropped (h : Asked s) (hpending : s.pending = origin :: pending) :
    Asked { s with pending := pending } := by
  have hmem := mem_pending hpending
  exact { h with
    unasked := by
      intro hu
      obtain ⟨hno, hrest⟩ := h.unasked hu
      exact ⟨fun hin => hno (hmem _ hin), hrest⟩
    last := h.last_tail hpending
    alone := fun hrun => absurd hrun (h.not_begun hpending)
    asked_map := fun hin => h.asked_map (hmem _ hin) }

/-- A run is started for the request. -/
theorem Asked.started (h : Asked s) (hpending : s.pending = origin :: pending) :
    Asked { s with
      pending := pending
      running := some ⟨origin, s.map, false⟩
      svc := "running" } := by
  have hmem := mem_pending hpending
  have hself : origin ∈ s.pending := by simp [hpending]
  have hown : origin = .invocation → pending = [] ∧ s.map = cacheRecoveryMap .update := by
    rintro rfl
    refine ⟨?_, h.asked_map hself⟩
    cases hp : pending with
    | nil => rfl
    | cons o rest =>
        rw [hp] at hpending
        exact absurd (by rw [hpending]; exact List.mem_cons_self) h.last
  refine ⟨?_, h.last_tail hpending, ?_, h.map_prop, h.start_map,
    fun hin => h.asked_map (hmem _ hin), ?_, ?_, h.map_iff⟩
  · intro hu
    obtain ⟨hno, -, hmapped⟩ := h.unasked hu
    refine ⟨fun hin => hno (hmem _ hin), ?_, hmapped⟩
    rintro _ ⟨⟩
    cases origin with
    | earlier => rfl
    | invocation => exact absurd hself hno
  · rintro (⟨_, ⟨⟩, horigin⟩ | hin)
    · refine ⟨(hown horigin).1, ?_⟩
      rintro _ ⟨⟩
      exact horigin
    · exact absurd (.inr hin) (h.not_begun hpending)
  · rintro _ ⟨⟩
    exact h.map_prop
  · rintro _ ⟨⟩ horigin
    exact (hown horigin).2

end Requests

theorem Asked.init (h : Asked s) (hok : initStep s = .ok s') : Asked s' := by
  obtain ⟨origin, pending, hpending, ⟨-, rfl⟩ | ⟨-, rfl⟩⟩ := initStep_cases hok
  · exact h.dropped hpending
  · exact h.started hpending

section Maps

variable {run : Run}

/-- A run is the one that was asked for if that one is under way, or has its map in place. -/
theorem Asked.own_run (h : Asked s) (hrun : run ∈ s.running)
    (hor : run.origin = .invocation ∨ .invocation ∈ s.mapped) :
    s.pending = [] ∧ run.origin = .invocation := by
  obtain ⟨hnil, hall⟩ := h.alone (hor.imp_left fun horigin => ⟨run, hrun, horigin⟩)
  exact ⟨hnil, hall run hrun⟩

/-- The map of the run that was asked for is there once that run has put it in place. -/
theorem Asked.map_iff_mapped (h : Asked s) (hrun : run ∈ s.running) :
    (s.setFile run.map (some run.origin)).files (cacheRecoveryMap .update) = some .invocation ↔
      run.origin = .invocation ∨ .invocation ∈ s.mapped := by
  by_cases hmap : cacheRecoveryMap .update = run.map
  · rw [← hmap, setFile_self]
    constructor
    · intro hfile
      exact .inl (Option.some.inj hfile)
    · intro hor
      rw [(h.own_run hrun hor).2]
  · rw [setFile_of_ne hmap, h.map_iff]
    constructor
    · exact .inr
    · rintro (horigin | hin)
      · exact absurd (h.own_map run hrun horigin).symm hmap
      · exact hin

theorem Asked.maps (h : Asked s) (hok : uncryptMaps s = .ok s') : Asked s' := by
  obtain ⟨run, hrunning, -, rfl⟩ := uncryptMaps_cases hok
  have hrun : run ∈ s.running := hrunning
  have hmem : .invocation ∈ run.origin :: s.mapped ↔
      run.origin = .invocation ∨ .invocation ∈ s.mapped := by
    rw [List.mem_cons, eq_comm]
  refine ⟨?_, h.last, ?_, h.map_prop, h.start_map, h.asked_map, ?_, ?_, ?_⟩
  · intro hu
    obtain ⟨hno, hearlier, -⟩ := h.unasked hu
    refine ⟨hno, ?_, ?_⟩
    · rintro _ ⟨⟩
      exact hearlier run hrun
    · intro hin
      have horigin := (h.own_run hrun (hmem.mp hin)).2
      rw [hearlier run hrun] at horigin
      cases horigin
  · intro hor
    have hor : run.origin = .invocation ∨ .invocation ∈ s.mapped := by
      rcases hor with ⟨_, ⟨⟩, horigin⟩ | hin
      · exact .inl horigin
      · exact hmem.mp hin
    obtain ⟨hnil, horigin⟩ := h.own_run hrun hor
    refine ⟨hnil, ?_⟩
    rintro _ ⟨⟩
    exact horigin
  · rintro _ ⟨⟩
    exact h.run_map run hrun
  · rintro _ ⟨⟩ horigin
    exact h.own_map run hrun horigin
  · exact (h.map_iff_mapped hrun).trans hmem.symm

end Maps

theorem Asked.exits (h : Asked s) (hok : uncryptExits s = .ok s') : Asked s' := by
  obtain ⟨-, rfl⟩ := uncryptExits_cases hok
  exact { h with
    unasked := by
      intro hu
      obtain ⟨hno, -, hmapped⟩ := h.unasked hu
      exact ⟨hno, nofun, hmapped⟩
    alone := by
      rintro (⟨_, hrun, -⟩ | hin)
      · cases hrun
      · exact ⟨(h.alone (.inr hin)).1, nofun⟩
    run_map := nofun
    own_map := nofun }

/-! ## The copies and the text -/

/-- The packages before one in the dialog. -/
def Package.before : Package → List Package
  | .update => []
  | .magisk => [.update]
  | .gapps => [.update, .magisk]
  | .decrypt => [.update, .magisk, .gapps]

/-- The packages the handler is done with, as long as it may still write the command. -/
def Pc.done : Pc → Option (List Package)
  | .deleteMap i | .checkOrigin i | .deleteDest i | .copy i => some i.before
  | .setOta | .setMap | .start | .poll => some []
  | .command => some Package.all
  | .reboot | .returned | .rebooted => none

/-- The package it is staging. -/
def Pc.staging : Pc → Option Package
  | .checkOrigin i | .deleteDest i | .copy i => some i
  | .setOta | .setMap | .start | .poll => some .update
  | .deleteMap _ | .command | .reboot | .returned | .rebooted => none

theorem Pc.done_after (i : Package) : (Pc.after i).done = some (i.before ++ [i]) := by
  cases i <;> rfl

theorem Package.not_mem_before (i : Package) : i ∉ i.before := by
  cases i <;> decide

/-- The selected packages among `l` are in the command, and the copies where it says. -/
structure Lists (s : Sys) (l : List Package) : Prop where
  text : s.commandString = commandText s.checkedItems l
  copied : ∀ i ∈ l, i ≠ .update → s.checkedItems i = true →
    s.files (cacheRecovery i) = some .invocation

structure Staged (s : Sys) : Prop where
  lists : ∀ l ∈ s.pc.done, Lists s l
  selected : ∀ i ∈ s.pc.staging, s.checkedItems i = true
  wanted : s.pc = .command → s.rebootWanted = true

variable {l : List Package}

theorem Lists.files (h : Lists s l) {path : String} {file : Option Origin}
    (hpath : ∀ i ∈ l, cacheRecovery i ≠ path) : Lists (s.setFile path file) l where
  text := h.text
  copied := by
    intro i hi hne hchecked
    rw [setFile_of_ne (hpath i hi)]
    exact h.copied i hi hne hchecked

/-- A package that is not selected adds nothing. -/
theorem Lists.skip (h : Lists s l) (hnot : s.checkedItems i = false) : Lists s (l ++ [i]) where
  text := by
    rw [h.text, commandText, commandText, List.filter_append,
      List.filter_cons_of_neg (by simp [hnot]), List.filter_nil, List.append_nil]
  copied := by
    intro j hj hne hchecked
    rcases List.mem_append.mp hj with hj | hj
    · exact h.copied j hj hne hchecked
    · rw [List.mem_singleton.mp hj, hnot] at hchecked
      cases hchecked

/-- A package that is selected and staged. -/
theorem Lists.append (h : Lists s l) (hchecked : s.checkedItems i = true)
    (hfile : i ≠ .update → s.files (cacheRecovery i) = some .invocation) :
    Lists (s.append i) (l ++ [i]) where
  text := by
    show s.commandString ++ commandLine i = commandText s.checkedItems (l ++ [i])
    rw [h.text, commandText, commandText, List.filter_append, List.filter_cons_of_pos hchecked,
      List.map_append, String.join_append]
    simp
  copied := by
    intro j hj hne hcheckedj
    rcases List.mem_append.mp hj with hj | hj
    · exact h.copied j hj hne hcheckedj
    · cases List.mem_singleton.mp hj
      exact hfile hne

theorem Lists.next (h : Lists s (i.before ++ [i])) : Staged (s.next i) where
  lists := by
    intro l hl
    change l ∈ (Pc.after i).done at hl
    rw [Pc.done_after] at hl
    cases hl
    exact ⟨h.text, h.copied⟩
  selected := by cases i <;> nofun
  wanted := fun _ => rfl

/-- A step of the handler within one package's turn. -/
theorem Staged.goto (h : Staged s) {pc : Pc} (hdone : pc.done = s.pc.done)
    (hstaging : pc.staging = s.pc.staging) (hpc : pc ≠ .command) : Staged { s with pc := pc } where
  lists := by
    intro l hl
    obtain ⟨htext, hcopied⟩ := h.lists l (hdone ▸ hl)
    exact ⟨htext, hcopied⟩
  selected := by
    intro i hi
    exact h.selected i (hstaging ▸ hi)
  wanted := fun hcommand => absurd hcommand hpc

/-- The turn of a package that is selected. -/
theorem Lists.turn (h : Lists s i.before) (hchecked : s.checkedItems i = true) :
    Staged { s with pc := .checkOrigin i } where
  lists := by
    rintro _ ⟨⟩
    exact ⟨h.text, h.copied⟩
  selected := by
    rintro _ ⟨⟩
    exact hchecked
  wanted := nofun

theorem Staged.files (h : Staged s) {path : String} {file : Option Origin}
    (hpath : ∀ l ∈ s.pc.done, ∀ i ∈ l, cacheRecovery i ≠ path) : Staged (s.setFile path file) where
  lists := fun l hl => (h.lists l hl).files (hpath l hl)
  selected := h.selected
  wanted := h.wanted

/-- What the properties, `init` and `uncrypt` are at does not matter here. -/
theorem Staged.frame (h : Staged s) (hpc : s'.pc = s.pc)
    (hchecked : s'.checkedItems = s.checkedItems) (htext : s'.commandString = s.commandString)
    (hwanted : s'.rebootWanted = s.rebootWanted) (hfiles : s'.files = s.files) : Staged s' where
  lists := by
    intro l hl
    obtain ⟨hl, hcopied⟩ := h.lists l (hpc ▸ hl)
    exact ⟨by rw [htext, hchecked, hl], by rwa [hchecked, hfiles]⟩
  selected := by
    rw [hpc, hchecked]
    exact h.selected
  wanted := by
    rw [hpc, hwanted]
    exact h.wanted

/-- The file of a package does not stand in the way of those before it. -/
theorem Staged.destFile (h : Staged s) (hdone : s.pc.done = some i.before) (file : Option Origin) :
    Staged (s.setFile (OtaUpdate.destFile i) file) := by
  apply h.files
  intro l hl j hj
  rw [hdone] at hl
  cases hl
  apply cacheRecovery_ne_destFile
  rintro rfl
  exact j.not_mem_before hj

/-- The handler has written the command, or never will. -/
theorem Staged.stop (hdone : s.pc.done = none) (hstaging : s.pc.staging = none) : Staged s where
  lists := by
    rw [hdone]
    nofun
  selected := by
    rw [hstaging]
    nofun
  wanted := by
    intro hcommand
    rw [hcommand] at hdone
    cases hdone

theorem Staged.copy (h : Staged s) (hpc : s.pc = .copy i) : Staged (s.copy i io) := by
  have hdone : s.pc.done = some i.before := by rw [hpc]; rfl
  have hstaging : s.pc.staging = some i := by rw [hpc]; rfl
  have hcopied := h.destFile hdone (some .invocation)
  cases io with
  | done =>
      simp only [Sys.copy]
      split
      · next hi =>
          subst hi
          exact hcopied.goto hdone.symm hstaging.symm nofun
      · next hi =>
          have hdest : OtaUpdate.destFile i = cacheRecovery i := by
            cases i with
            | update => exact absurd rfl hi
            | _ => rfl
          apply Lists.next
          refine (hcopied.lists _ hdone).append (h.selected i hstaging) ?_
          intro _
          rw [← hdest, setFile_self]
  | failed => exact .stop rfl rfl
  | partly => exact .stop rfl rfl

theorem Staged.handler (h : Staged s) (hok : handlerStep s io = .ok s') : Staged s' := by
  unfold handlerStep at hok
  cases hpc : s.pc <;> simp only [hpc] at hok <;> cases hok
  case deleteMap i =>
      have hdeleted : Staged (s.delete (cacheRecoveryMap i) io) :=
        h.files fun _ _ j _ => cacheRecovery_ne_map j i
      have hlists := hdeleted.lists i.before (show _ ∈ s.pc.done by rw [hpc]; rfl)
      split
      · next hchecked => exact hlists.turn hchecked
      · next hchecked => exact (hlists.skip (by simpa using hchecked)).next
  case checkOrigin i =>
      split
      · exact h.goto (by rw [hpc]; rfl) (by rw [hpc]; rfl) nofun
      · exact .stop rfl rfl
  case deleteDest i =>
      have hdone : s.pc.done = some i.before := by rw [hpc]; rfl
      have hstaging : s.pc.staging = some i := by rw [hpc]; rfl
      exact (h.destFile hdone _).goto hdone.symm hstaging.symm nofun
  case copy i => exact h.copy hpc
  case setOta =>
      have hgoto : Staged { s with pc := .setMap } :=
        h.goto (by rw [hpc]; rfl) (by rw [hpc]; rfl) nofun
      exact hgoto.frame rfl rfl rfl rfl rfl
  case setMap =>
      have hgoto : Staged { s with pc := .start } :=
        h.goto (by rw [hpc]; rfl) (by rw [hpc]; rfl) nofun
      exact hgoto.frame rfl rfl rfl rfl rfl
  case start =>
      have hgoto : Staged { s with pc := .poll } :=
        h.goto (by rw [hpc]; rfl) (by rw [hpc]; rfl) nofun
      exact hgoto.frame rfl rfl rfl rfl rfl
  case poll =>
      split
      · have hselected := h.selected .update (by rw [hpc]; rfl)
        exact ((h.lists [] (by rw [hpc]; rfl)).append hselected (absurd rfl)).next
      · exact h
  case command =>
      split
      · exact .stop rfl rfl
      · exact .stop rfl rfl
  case reboot => exact .stop rfl rfl

/-! ## Writing the command -/

/-- The handler writes the command at the end of its loop. -/
def Sys.written (s : Sys) : Sys :=
  { s.setFile "/cache/recovery/command" (some .invocation) with
    command := some s.commandString, pc := .reboot }

/-- Nothing else writes it, and a handler that is through stays so. -/
theorem handlerStep_command (hok : handlerStep s io = .ok s') :
    (s.pc = .command ∧ s' = s.written) ∨
      (s'.command = s.command ∧ (s.pc.done = none → s'.pc.done = none)) := by
  unfold handlerStep at hok
  cases hpc : s.pc <;> simp only [hpc] at hok <;> cases hok
  case command =>
      split
      · exact .inl ⟨rfl, rfl⟩
      · exact .inr ⟨rfl, nofun⟩
  case deleteMap i =>
      right
      split
      · exact ⟨rfl, nofun⟩
      · exact ⟨rfl, nofun⟩
  case copy i =>
      right
      cases io with
      | done =>
          simp only [Sys.copy]
          split
          · exact ⟨rfl, nofun⟩
          · exact ⟨rfl, nofun⟩
      | failed => exact ⟨rfl, nofun⟩
      | partly => exact ⟨rfl, nofun⟩
  case poll =>
      right
      split
      · exact ⟨rfl, nofun⟩
      · exact ⟨rfl, by rw [hpc]; exact id⟩
  case reboot => exact .inr ⟨rfl, fun _ => rfl⟩
  all_goals exact .inr ⟨rfl, nofun⟩

theorem initStep_command (hok : initStep s = .ok s') :
    s'.command = s.command ∧ s'.pc = s.pc := by
  obtain ⟨origin, pending, -, ⟨-, rfl⟩ | ⟨-, rfl⟩⟩ := initStep_cases hok
  · exact ⟨rfl, rfl⟩
  · exact ⟨rfl, rfl⟩

theorem uncryptMaps_command (hok : uncryptMaps s = .ok s') :
    s'.command = s.command ∧ s'.pc = s.pc := by
  obtain ⟨run, -, -, rfl⟩ := uncryptMaps_cases hok
  exact ⟨rfl, rfl⟩

theorem uncryptExits_command (hok : uncryptExits s = .ok s') :
    s'.command = s.command ∧ s'.pc = s.pc := by
  obtain ⟨-, rfl⟩ := uncryptExits_cases hok
  exact ⟨rfl, rfl⟩

/-- Who writes the command, and when. -/
theorem step_command (hok : step s e = .ok s') :
    ((∃ io, e = .handler io) ∧ s.pc = .command ∧ s' = s.written) ∨
      (s'.command = s.command ∧ (s.pc.done = none → s'.pc.done = none)) := by
  cases e with
  | handler io =>
      rcases handlerStep_command hok with hwritten | hsame
      · exact .inl ⟨⟨io, rfl⟩, hwritten⟩
      · exact .inr hsame
  | init =>
      obtain ⟨hcommand, hpc⟩ := initStep_command hok
      exact .inr ⟨hcommand, by rw [hpc]; exact id⟩
  | uncryptMaps =>
      obtain ⟨hcommand, hpc⟩ := uncryptMaps_command hok
      exact .inr ⟨hcommand, by rw [hpc]; exact id⟩
  | uncryptExits =>
      obtain ⟨hcommand, hpc⟩ := uncryptExits_command hok
      exact .inr ⟨hcommand, by rw [hpc]; exact id⟩

/-! ## Whole runs -/

structure Inv (s : Sys) : Prop where
  asked : Asked s
  staged : Staged s
  unwritten : s.pc.done ≠ none → s.command = none

theorem inv_clicked (checkedItems : Package → Bool) (present : String → Bool) (usedBefore : Bool)
    (svc : String) (pendingBefore : Nat) (runningBefore : Option Bool) :
    Inv (.clicked checkedItems present usedBefore svc pendingBefore runningBefore) where
  asked := by
    have hearlier : ∀ run ∈ runningBefore.map fun mapped =>
        (⟨.earlier, cacheRecoveryMap .update, mapped⟩ : Run),
        run.origin = .earlier ∧ run.map = cacheRecoveryMap .update := by
      intro run hrun
      obtain ⟨_, -, rfl⟩ := Option.mem_map.mp hrun
      exact ⟨rfl, rfl⟩
    have hnot : ∀ n : Nat, Origin.invocation ∉ List.replicate n Origin.earlier := by
      intro n hin
      cases List.eq_of_mem_replicate hin
    refine ⟨?_, ?_, ?_, ?_, nofun, ?_, ?_, ?_, ?_⟩
    · intro _
      exact ⟨hnot _, fun run hrun => (hearlier run hrun).1, nofun⟩
    · show Origin.invocation ∉ (List.replicate pendingBefore Origin.earlier).dropLast
      rw [List.dropLast_replicate]
      exact hnot _
    · rintro (⟨run, hrun, horigin⟩ | hin)
      · rw [(hearlier run hrun).1] at horigin
        cases horigin
      · cases hin
    · show (if usedBefore then cacheRecoveryMap .update else "") = "" ∨ _
      cases usedBefore
      · exact .inl rfl
      · exact .inr rfl
    · intro hin
      exact absurd hin (hnot _)
    · intro run hrun
      exact .inr (hearlier run hrun).2
    · intro run hrun horigin
      exact (hearlier run hrun).2
    · refine iff_of_false ?_ nofun
      show ¬ (if present _ then some Origin.earlier else none) = some .invocation
      split <;> nofun
  staged := by
    refine ⟨?_, nofun, nofun⟩
    rintro _ ⟨⟩
    exact ⟨rfl, nofun⟩
  unwritten := fun _ => rfl

theorem Staged.init (h : Staged s) (hok : initStep s = .ok s') : Staged s' := by
  obtain ⟨origin, pending, -, ⟨-, rfl⟩ | ⟨-, rfl⟩⟩ := initStep_cases hok
  · exact h.frame rfl rfl rfl rfl rfl
  · exact h.frame rfl rfl rfl rfl rfl

theorem Staged.maps (h : Staged s) (hasked : Asked s) (hok : uncryptMaps s = .ok s') :
    Staged s' := by
  obtain ⟨run, hrunning, -, rfl⟩ := uncryptMaps_cases hok
  have hpath : ∀ i, cacheRecovery i ≠ run.map := by
    intro i
    rcases hasked.run_map run hrunning with hmap | hmap
    · rw [hmap]
      cases i <;> decide
    · rw [hmap]
      exact cacheRecovery_ne_map i .update
  have hmapped : Staged (s.setFile run.map (some run.origin)) := h.files fun _ _ i _ => hpath i
  exact hmapped.frame rfl rfl rfl rfl rfl

theorem Staged.exits (h : Staged s) (hok : uncryptExits s = .ok s') : Staged s' := by
  obtain ⟨-, rfl⟩ := uncryptExits_cases hok
  exact h.frame rfl rfl rfl rfl rfl

theorem Inv.step (h : Inv s) (hok : step s e = .ok s') : Inv s' := by
  have hunwritten : s'.pc.done ≠ none → s'.command = none := by
    intro hdone
    rcases step_command hok with ⟨-, -, rfl⟩ | ⟨hcommand, hthrough⟩
    · exact absurd rfl hdone
    · rw [hcommand]
      apply h.unwritten
      exact fun hnone => hdone (hthrough hnone)
  cases e with
  | handler io => exact ⟨h.asked.handler hok, h.staged.handler hok, hunwritten⟩
  | init => exact ⟨h.asked.init hok, h.staged.init hok, hunwritten⟩
  | uncryptMaps => exact ⟨h.asked.maps hok, h.staged.maps h.asked hok, hunwritten⟩
  | uncryptExits => exact ⟨h.asked.exits hok, h.staged.exits hok, hunwritten⟩

/-- The command is complete exactly if the map is, the copies being there anyway. -/
theorem Inv.written_iff (h : Inv s) (hpc : s.pc = .command) :
    (∀ path ∈ packagePaths s.commandString, s.written.files path = some .invocation) ↔
      (s.checkedItems .update = true → .invocation ∈ s.mapped) := by
  have hlists := h.staged.lists Package.all (by rw [hpc]; rfl)
  have hfiles : ∀ i, s.written.files (stagedPath i) = s.files (stagedPath i) := by
    intro i
    apply setFile_of_ne
    cases i <;> decide
  rw [hlists.text, packagePaths_commandText, ← h.asked.map_iff]
  simp only [List.forall_mem_map, List.mem_filter, hfiles]
  constructor
  · intro hall hchecked
    exact hall .update ⟨by decide, hchecked⟩
  · rintro hmap i ⟨hi, hchecked⟩
    by_cases hupdate : i = .update
    · subst hupdate
      exact hmap hchecked
    · have hpath : stagedPath i = cacheRecovery i := by
        cases i with
        | update => exact absurd rfl hupdate
        | _ => rfl
      rw [hpath]
      exact hlists.copied i hi hupdate hchecked

theorem Inv.stages_iff (h : Inv s) : StagesAll s e ↔ MapAwaited s e := by
  by_cases hwrites : (∃ io, e = .handler io) ∧ s.pc = .command
  · obtain ⟨⟨io, rfl⟩, hpc⟩ := hwrites
    have hok : OtaUpdate.step s (.handler io) = .ok s.written := by
      simp only [OtaUpdate.step, handlerStep, hpc, h.staged.wanted hpc, if_true]
      rfl
    have hnone := h.unwritten (by rw [hpc]; nofun)
    constructor
    · intro hall _
      exact (h.written_iff hpc).mp (hall _ hok hnone _ rfl)
    · intro hmap s' hok' _
      cases hok.symm.trans hok'
      rintro _ ⟨⟩
      exact (h.written_iff hpc).mpr (hmap hpc)
  · have hawaited : MapAwaited s e := by
      cases e with
      | handler io => exact fun hpc => absurd ⟨⟨io, rfl⟩, hpc⟩ hwrites
      | _ => trivial
    refine iff_of_true ?_ hawaited
    intro s' hok hnone text htext
    rcases step_command hok with ⟨hhandler, hpc, -⟩ | ⟨hcommand, -⟩
    · exact absurd ⟨hhandler, hpc⟩ hwrites
    · rw [hcommand, hnone] at htext
      cases htext

/-- **Everything the command names is there and made by this call, if and only if the command is
never written, with the update selected, before the run of `uncrypt` that was asked for has put its
map in place.** -/
theorem stagesAll_iff (checkedItems : Package → Bool) (present : String → Bool) (usedBefore : Bool)
    (svc : String) (pendingBefore : Nat) (runningBefore : Option Bool) (evs : List Event) :
    EveryStep step StagesAll
        (.clicked checkedItems present usedBefore svc pendingBefore runningBefore) evs ↔
      EveryStep step MapAwaited
        (.clicked checkedItems present usedBefore svc pendingBefore runningBefore) evs := by
  apply everyStep_iff (P := Inv) (B := fun _ _ => True)
  · intro s e s' h _ _ hok
    exact h.step hok
  · intro s e h _
    exact h.stages_iff
  · exact inv_clicked ..
  · exact everyStep_true

/-- The update alone is selected, and `uncrypt_custom` has run before: the handler is through before
`init` has come to its request. -/
theorem map_missing_after_old_run :
    ¬ EveryStep step StagesAll
      (.clicked (· = .update) (· = "/sdcard/update.zip") true "stopped" 0 none)
      (List.replicate 12 (.handler .done)) := by
  decide +kernel

end VendorRs.OtaUpdate
