import VendorRs.Generator.Basic

/-!
# The tools of a module

A label may be used for one tool only. While the tools are collected a second one under the same
label is an error, and so is a dependency that is no tool, and nothing else is
(`generate_reports_tools`). A module without errors has all the tools that were declared for it,
each under a label of its own, and depends on all of them (`tools_of_generate`).
-/

namespace VendorRs.Generator

open Template

variable {ctx : Context} {props : Properties} {m m' m'' : Module} {ts ts' : List (Text × Text)}
  {label path : Text}

/-! ## What is declared -/

/-- The tool that a dependency provides, with its label. -/
def Dep.tool (dep : Dep) : Option (Text × Text) :=
  if dep.hostTool then
    match dep.provider with
    | .hostTool true (some path) => some (dep.name, path)
    | .goBinary (.ok path) => some (dep.name, path)
    | _ => none
  else none

/-- A tool that is disabled, in a build that goes on without it. -/
def Dep.Waived (ctx : Context) (dep : Dep) : Prop :=
  dep.hostTool = true ∧ (∃ path, dep.provider = .hostTool false path) ∧
    ctx.allowMissingDependencies = true

def toolDeps (ctx : Context) (props : Properties) : List Dep :=
  if props.tools.length > 0 then ctx.directDeps else []

/-- All the tools of a module, the ones built for it first. -/
def declared (ctx : Context) (props : Properties) : List (Text × Text) :=
  (toolDeps ctx props).filterMap Dep.tool ++
    (ctx.expandSources props.toolFiles).map fun tool => (tool.rel, tool.text)

/-- Every dependency is a tool or may be missing, and no label is used twice. -/
def Accepted (ctx : Context) (props : Properties) : Prop :=
  (∀ dep ∈ toolDeps ctx props, dep.tool.isSome ∨ dep.Waived ctx) ∧
    ((declared ctx props).map Prod.fst).Nodup

/-! ## Steps that add tools -/

/-- From `m` to `m'` these tools have been added under new labels, or there are errors. -/
def Adds (m m' : Module) (ts : List (Text × Text)) : Prop :=
  m'.errors = [] → m.errors = [] ∧ m'.tools = m.tools ++ ts ∧
    m'.implicitDeps = m.implicitDeps ++ ts.map Prod.snd ∧
    ((m.tools.map Prod.fst).Nodup → (m'.tools.map Prod.fst).Nodup)

theorem Adds.refl (m : Module) : Adds m m [] :=
  fun h => ⟨h, (List.append_nil _).symm, (List.append_nil _).symm, id⟩

theorem Adds.trans (h : Adds m m' ts) (h' : Adds m' m'' ts') : Adds m m'' (ts ++ ts') := by
  intro hend
  obtain ⟨hmid, htools', hdeps', hnodup'⟩ := h' hend
  obtain ⟨hstart, htools, hdeps, hnodup⟩ := h hmid
  refine ⟨hstart, ?_, ?_, fun hm => hnodup' (hnodup hm)⟩
  · rw [htools', htools, List.append_assoc]
  · rw [hdeps', hdeps, List.map_append, List.append_assoc]

/-- An error adds no tools, since there must not be any afterwards. -/
theorem adds_of_error (h : m'.errors ≠ []) (ts : List (Text × Text)) : Adds m m' ts :=
  fun hend => absurd hend h

theorem errors_moduleErrorf (m : Module) (format : Text) (args : List Text) :
    (m.moduleErrorf format args).errors ≠ [] := by
  simp [Module.moduleErrorf]

theorem adds_foldl {α : Type} {f : Module → α → Module} {g : α → List (Text × Text)}
    (h : ∀ m x, Adds m (f m x) (g x)) (xs : List α) (m : Module) :
    Adds m (xs.foldl f m) (xs.flatMap g) := by
  induction xs generalizing m with
  | nil => exact Adds.refl m
  | cons x xs ih => exact (h m x).trans (ih (f m x))

theorem lookup_eq_none_iff : ts.lookup label = none ↔ label ∉ ts.map Prod.fst := by
  rw [List.lookup_eq_none_iff]
  constructor
  · intro h hmem
    obtain ⟨t, ht, rfl⟩ := List.mem_map.mp hmem
    simpa using h t ht
  · intro h t ht
    rw [bne_iff_ne]
    rintro rfl
    exact h (List.mem_map_of_mem ht)

theorem adds_addTool (m : Module) (label path subject second : Text) :
    Adds m (m.addTool label path subject second) [(label, path)] := by
  unfold Module.addTool
  dsimp only
  split
  · next hnew =>
    refine fun hend => ⟨hend, rfl, rfl, fun hnodup => ?_⟩
    rw [List.map_append, List.nodup_append]
    refine ⟨hnodup, by simp, ?_⟩
    rintro first hfirst _ hlabel rfl
    rw [List.mem_singleton.mp hlabel] at hfirst
    exact lookup_eq_none_iff.mp hnew hfirst
  · exact adds_of_error (errors_moduleErrorf _ _ _) _

theorem adds_visitDep (ctx : Context) (m : Module) (dep : Dep) :
    Adds m (visitDep ctx m dep) dep.tool.toList := by
  obtain ⟨name, hostTool, provider⟩ := dep
  cases hostTool with
  | false => exact adds_of_error (errors_moduleErrorf _ _ _) _
  | true =>
      match provider with
      | .hostTool false path =>
          unfold visitDep
          dsimp only
          split
          · split
            · exact fun hend => ⟨hend, (List.append_nil _).symm, (List.append_nil _).symm, id⟩
            · exact adds_of_error (errors_moduleErrorf _ _ _) _
          · exact adds_of_error (errors_moduleErrorf _ _ _) _
      | .hostTool true none => exact adds_of_error (errors_moduleErrorf _ _ _) _
      | .hostTool true (some path) => exact adds_addTool m name path name path
      | .goBinary (.ok path) => exact adds_addTool m name path name path
      | .goBinary (.error err) => exact adds_of_error (errors_moduleErrorf _ _ _) _
      | .other => exact adds_of_error (errors_moduleErrorf _ _ _) _

theorem adds_findTools (ctx : Context) (props : Properties) :
    Adds (start ctx props) (findTools ctx props) ((toolDeps ctx props).filterMap Dep.tool) := by
  unfold findTools toolDeps
  split
  · rw [List.filterMap_eq_flatMap_toList]
    exact adds_foldl (adds_visitDep ctx) _ _
  · exact Adds.refl _

theorem adds_toolFiles (m : Module) (files : List Path) :
    Adds m (files.foldl addToolFile m) (files.map fun tool => (tool.rel, tool.text)) := by
  rw [List.map_eq_flatMap]
  exact adds_foldl (fun m tool => adds_addTool m tool.rel tool.text tool.text tool.rel) _ _

/-! ## When there is an error -/

theorem errors_addTool (m : Module) (label path subject second : Text) :
    (m.addTool label path subject second).errors = [] ↔
      m.errors = [] ∧ label ∉ m.tools.map Prod.fst := by
  unfold Module.addTool
  dsimp only
  split
  · next hnew => exact (and_iff_left (lookup_eq_none_iff.mp hnew)).symm
  · next hold =>
    apply iff_of_false (errors_moduleErrorf _ _ _)
    rintro ⟨-, hnew⟩
    rw [lookup_eq_none_iff.mpr hnew] at hold
    cases hold

theorem nodup_concat_iff (hnodup : (m.tools.map Prod.fst).Nodup) :
    ((m.tools ++ [(label, path)]).map Prod.fst).Nodup ↔ label ∉ m.tools.map Prod.fst := by
  rw [List.map_append, List.nodup_append]
  constructor
  · rintro ⟨-, -, hne⟩ hmem
    exact hne label hmem label (by simp) rfl
  · intro hnot
    refine ⟨hnodup, by simp, ?_⟩
    rintro first hfirst _ hlabel rfl
    rw [List.mem_singleton.mp hlabel] at hfirst
    exact hnot hfirst

/-- What a step needs in order to report nothing. -/
def Reports {α : Type} (f : Module → α → Module) (g : α → List (Text × Text)) (good : α → Prop) :
    Prop :=
  ∀ m x, (m.tools.map Prod.fst).Nodup →
    ((f m x).errors = [] ↔ m.errors = [] ∧ good x ∧ ((m.tools ++ g x).map Prod.fst).Nodup)

theorem Reports.foldl {α : Type} {f : Module → α → Module} {g : α → List (Text × Text)}
    {good : α → Prop} (h : Reports f g good) (hadds : ∀ m x, Adds m (f m x) (g x)) (xs : List α)
    (m : Module) (hnodup : (m.tools.map Prod.fst).Nodup) :
    (xs.foldl f m).errors = [] ↔ m.errors = [] ∧ (∀ x ∈ xs, good x) ∧
      ((m.tools ++ xs.flatMap g).map Prod.fst).Nodup := by
  induction xs generalizing m with
  | nil => simp [hnodup]
  | cons x xs ih =>
      have hstep := h m x hnodup
      have hfewer : ((m.tools ++ (x :: xs).flatMap g).map Prod.fst).Nodup →
          ((m.tools ++ g x).map Prod.fst).Nodup := by
        rw [List.flatMap_cons, ← List.append_assoc, List.map_append]
        exact fun hall => hall.sublist (List.sublist_append_left _ _)
      rw [List.foldl_cons, List.forall_mem_cons]
      by_cases hx : (f m x).errors = []
      · obtain ⟨hm, htools, -, hkeep⟩ := hadds m x hx
        rw [ih (f m x) (hkeep hnodup), htools, List.append_assoc, ← List.flatMap_cons]
        simp [hx, hm, (hstep.mp hx).2.1]
      · apply iff_of_false
        · exact fun hend => hx (adds_foldl hadds xs (f m x) hend).1
        · rintro ⟨hm, ⟨hgood, -⟩, hall⟩
          exact hx (hstep.mpr ⟨hm, hgood, hfewer hall⟩)

theorem reports_visitDep (ctx : Context) :
    Reports (visitDep ctx) (fun dep => dep.tool.toList)
      (fun dep => dep.tool.isSome ∨ dep.Waived ctx) := by
  intro m dep hnodup
  have hfail (format : Text) (args : List Text) {P : Prop} (hP : ¬ P) :
      (m.moduleErrorf format args).errors = [] ↔ m.errors = [] ∧ P ∧
        ((m.tools ++ []).map Prod.fst).Nodup :=
    iff_of_false (errors_moduleErrorf _ _ _) fun h => hP h.2.1
  have htool (label path : Text) {P : Prop} (hP : P) :
      (m.addTool label path label path).errors = [] ↔ m.errors = [] ∧ P ∧
        ((m.tools ++ [(label, path)]).map Prod.fst).Nodup := by
    rw [errors_addTool, nodup_concat_iff hnodup]
    simp [hP]
  obtain ⟨name, hostTool, provider⟩ := dep
  cases hostTool with
  | false => exact hfail _ _ (by simp [Dep.tool, Dep.Waived])
  | true =>
      match provider with
      | .hostTool false path =>
          unfold visitDep
          dsimp only
          rw [if_pos rfl]
          split
          · next hallow => simp [Dep.tool, Dep.Waived, hallow, hnodup]
          · next hallow => exact hfail _ _ (by simp [Dep.tool, Dep.Waived, hallow])
      | .hostTool true none => exact hfail _ _ (by simp [Dep.tool, Dep.Waived])
      | .hostTool true (some path) => exact htool name path (.inl rfl)
      | .goBinary (.ok path) => exact htool name path (.inl rfl)
      | .goBinary (.error err) => exact hfail _ _ (by simp [Dep.tool, Dep.Waived])
      | .other => exact hfail _ _ (by simp [Dep.tool, Dep.Waived])

theorem reports_addToolFile :
    Reports addToolFile (fun tool => [(tool.rel, tool.text)]) (fun _ => True) := by
  intro m tool hnodup
  rw [addToolFile, errors_addTool, nodup_concat_iff hnodup]
  simp

theorem errors_findTools (ctx : Context) (props : Properties) :
    (findTools ctx props).errors = [] ↔
      (∀ dep ∈ toolDeps ctx props, dep.tool.isSome ∨ dep.Waived ctx) ∧
        (((toolDeps ctx props).filterMap Dep.tool).map Prod.fst).Nodup := by
  unfold findTools toolDeps
  split
  · rw [(reports_visitDep ctx).foldl (adds_visitDep ctx) _ (start ctx props) List.nodup_nil,
      List.filterMap_eq_flatMap_toList]
    exact and_iff_right rfl
  · exact iff_of_true rfl ⟨by simp, List.nodup_nil⟩

/-- The tools are collected without an error exactly if they are accepted. -/
theorem errors_toolFiles (ctx : Context) (props : Properties) :
    ((ctx.expandSources props.toolFiles).foldl addToolFile (findTools ctx props)).errors = [] ↔
      Accepted ctx props := by
  have hadds (m : Module) (tool : Path) : Adds m (addToolFile m tool) [(tool.rel, tool.text)] :=
    adds_addTool m tool.rel tool.text tool.text tool.rel
  by_cases hdeps : (findTools ctx props).errors = []
  · obtain ⟨-, htools, -, hnodup⟩ := adds_findTools ctx props hdeps
    have hfiles : (ctx.expandSources props.toolFiles).map (fun tool => (tool.rel, tool.text)) =
        (ctx.expandSources props.toolFiles).flatMap fun tool => [(tool.rel, tool.text)] :=
      List.map_eq_flatMap
    have hgood := ((errors_findTools ctx props).mp hdeps).1
    rw [reports_addToolFile.foldl hadds _ _ (hnodup List.nodup_nil), htools, Accepted, declared,
      hfiles]
    constructor
    · rintro ⟨-, -, hall⟩
      exact ⟨hgood, hall⟩
    · rintro ⟨-, hall⟩
      exact ⟨hdeps, fun _ _ => trivial, hall⟩
  · apply iff_of_false
    · exact fun hend => hdeps (adds_foldl hadds _ _ hend).1
    · rintro ⟨hgood, hnodup⟩
      apply hdeps
      rw [errors_findTools]
      refine ⟨hgood, ?_⟩
      rw [declared, List.map_append] at hnodup
      exact hnodup.sublist (List.sublist_append_left _ _)

/-! ## Steps that add none -/

theorem adds_lineageExpandVariables (ctx : Context) (m : Module) (text : Text) :
    Adds m (lineageExpandVariables ctx m text).2 [] := by
  unfold lineageExpandVariables
  split
  · exact Adds.refl m
  · exact adds_of_error (by simp [Module.propertyErrorf]) _
  · exact Adds.refl m

theorem adds_depRoot (ctx : Context) (props : Properties) (m : Module) :
    Adds m (depRoot ctx props m).2 [] := by
  unfold depRoot
  split
  · exact Adds.refl m
  · exact adds_lineageExpandVariables ctx m _

theorem adds_globDepFiles (ctx : Context) (root : Text) (files : List Text) (m : Module) :
    Adds m (globDepFiles ctx root files m).1 [] := by
  induction files generalizing m with
  | nil => exact Adds.refl m
  | cons file files ih =>
      have hfile := adds_lineageExpandVariables ctx m file
      rw [globDepFiles]
      dsimp only
      split
      · exact adds_of_error (errors_moduleErrorf _ _ _) _
      · exact hfile.trans (ih _)

theorem globDepFiles_false {root : Text} {files : List Text}
    (h : (globDepFiles ctx root files m).2 = false) :
    (globDepFiles ctx root files m).1.errors ≠ [] := by
  induction files generalizing m with
  | nil => cases h
  | cons file files ih =>
      rw [globDepFiles] at h ⊢
      dsimp only at h ⊢
      split
      · exact errors_moduleErrorf _ _ _
      · next hglob =>
        rw [hglob] at h
        exact ih h

/-! ## Errors about tools -/

/-- The formats of the errors that are reported while the tools are collected. -/
def toolFormats : List Text :=
  ["depends on disabled module %q", "host tool %q missing output file",
    "cannot find path for %q: %v", "%q is not a host tool provider", "unknown dependency on %q",
    "multiple tools for %q, %q and %q"].map (·.toList)

def Error.AboutTools : Error → Prop
  | .module e => e.format ∈ toolFormats
  | .property _ _ _ => False

/-- A step whose errors are all about tools. -/
def OnlyTools (m m' : Module) : Prop :=
  (∀ e ∈ m.errors, e.AboutTools) → ∀ e ∈ m'.errors, e.AboutTools

/-- A step none of whose errors are about tools. -/
def NoTools (m m' : Module) : Prop :=
  ∃ es, m'.errors = m.errors ++ es ∧ ∀ e ∈ es, ¬ e.AboutTools

theorem onlyTools_moduleErrorf {format : Text} {args : List Text} (h : format ∈ toolFormats)
    (m : Module) : OnlyTools m (m.moduleErrorf format args) := by
  intro hm e he
  rcases List.mem_append.mp he with he | he
  · exact hm e he
  · rw [List.mem_singleton.mp he]
    exact h

theorem onlyTools_addTool (m : Module) (label path subject second : Text) :
    OnlyTools m (m.addTool label path subject second) := by
  unfold Module.addTool
  dsimp only
  split
  · exact fun hm => hm
  · exact fun hm => onlyTools_moduleErrorf (by decide) _ hm

theorem onlyTools_visitDep (ctx : Context) (m : Module) (dep : Dep) :
    OnlyTools m (visitDep ctx m dep) := by
  unfold visitDep
  split
  · split
    · split
      · exact fun hm => hm
      · exact onlyTools_moduleErrorf (by decide) m
    · exact onlyTools_moduleErrorf (by decide) m
    · exact onlyTools_addTool m _ _ _ _
    · exact onlyTools_addTool m _ _ _ _
    · exact onlyTools_moduleErrorf (by decide) m
    · exact onlyTools_moduleErrorf (by decide) m
  · exact onlyTools_moduleErrorf (by decide) m

theorem onlyTools_foldl {α : Type} {f : Module → α → Module} (h : ∀ m x, OnlyTools m (f m x))
    (xs : List α) (m : Module) : OnlyTools m (xs.foldl f m) := by
  induction xs generalizing m with
  | nil => exact fun hm => hm
  | cons x xs ih => exact fun hm => ih (f m x) (h m x hm)

theorem onlyTools_findTools (ctx : Context) (props : Properties) :
    ∀ e ∈ (findTools ctx props).errors, e.AboutTools := by
  have hstart : ∀ e ∈ (start ctx props).errors, e.AboutTools := by simp [start]
  unfold findTools
  split
  · exact onlyTools_foldl (onlyTools_visitDep ctx) _ _ hstart
  · exact hstart

theorem NoTools.refl (m : Module) : NoTools m m := ⟨[], (List.append_nil _).symm, by simp⟩

theorem NoTools.trans (h : NoTools m m') (h' : NoTools m' m'') : NoTools m m'' := by
  obtain ⟨es, heq, hes⟩ := h
  obtain ⟨es', heq', hes'⟩ := h'
  refine ⟨es ++ es', by rw [heq', heq, List.append_assoc], fun e he => ?_⟩
  exact (List.mem_append.mp he).elim (hes e) (hes' e)

theorem noTools_moduleErrorf {format : Text} {args : List Text} (h : format ∉ toolFormats)
    (m : Module) : NoTools m (m.moduleErrorf format args) :=
  ⟨_, rfl, fun e he => by rwa [List.mem_singleton.mp he]⟩

theorem noTools_propertyErrorf (m : Module) (name format : Text) (cause : Errorf) :
    NoTools m (m.propertyErrorf name format cause) :=
  ⟨_, rfl, by simp [Error.AboutTools]⟩

theorem noTools_lineageExpandVariables (ctx : Context) (m : Module) (text : Text) :
    NoTools m (lineageExpandVariables ctx m text).2 := by
  unfold lineageExpandVariables
  split
  · exact NoTools.refl m
  · exact noTools_propertyErrorf m _ _ _
  · exact NoTools.refl m

theorem noTools_depRoot (ctx : Context) (props : Properties) (m : Module) :
    NoTools m (depRoot ctx props m).2 := by
  unfold depRoot
  split
  · exact NoTools.refl m
  · exact noTools_lineageExpandVariables ctx m _

theorem noTools_globDepFiles (ctx : Context) (root : Text) (files : List Text) (m : Module) :
    NoTools m (globDepFiles ctx root files m).1 := by
  induction files generalizing m with
  | nil => exact NoTools.refl m
  | cons file files ih =>
      have hfile := noTools_lineageExpandVariables ctx m file
      rw [globDepFiles]
      dsimp only
      split
      · exact hfile.trans (noTools_moduleErrorf (by decide) _)
      · exact hfile.trans (ih _)

/-! ## The whole function -/

/-- The errors of a module are those of its tools, and behind them others. -/
theorem errors_of_generate (h : generateAndroidBuildActions ctx props = some m) :
    (m = findTools ctx props ∧ m.errors ≠ []) ∨ NoTools
      ((ctx.expandSources props.toolFiles).foldl addToolFile (findTools ctx props)) m := by
  unfold generateAndroidBuildActions at h
  dsimp only at h
  split at h
  · next hfail =>
    cases h
    exact .inl ⟨rfl, hfail⟩
  · right
    generalize (ctx.expandSources props.toolFiles).foldl addToolFile (findTools ctx props) = m₀
      at h ⊢
    have hroot := noTools_depRoot ctx props m₀
    generalize depRoot ctx props m₀ = r at h hroot
    have hglob := noTools_globDepFiles ctx r.1 props.depFiles r.2
    generalize globDepFiles ctx r.1 props.depFiles r.2 = g at h hglob
    obtain ⟨m₁, ok⟩ := g
    have hbefore := hroot.trans hglob
    cases ok with
    | false =>
        cases h
        exact hbefore
    | true =>
        have hexpand := noTools_lineageExpandVariables ctx m₁ (string props.cmd)
        dsimp only at h
        split at h
        · cases h
        · cases h
          exact (hbefore.trans hexpand).trans (noTools_propertyErrorf _ _ _ _)
        · cases h
          exact hbefore.trans hexpand

/-- A module with a tool that was built for it and one that is a file, and a variable of the
product that names a place below the output directory. -/
def sampleContext : Context where
  expander := standard (.errorf ⟨"malformed".toList, []⟩)
  lineageVars name := if name = "HEADERS".toList then some "$(genDir)/include".toList else none
  moduleDir := "src".toList
  pathForModuleGen dir := (Paths.joinText (Paths.ofText "out/a".toList) dir).text
  pathForOutput := "out".toList
  tempDirForOutDir out := (Paths.joinText (Paths.ofText out) ".temp".toList).text
  directDeps := [⟨"mkhdr".toList, true, .hostTool true (some "out/bin/mkhdr".toList)⟩]
  allowMissingDependencies := false
  expandSources files := files.map fun file => ⟨file, "src/".toList ++ file⟩
  globWithDeps path := .ok [path]

def sampleProps : Properties where
  cmd := some "$(location mkhdr) -o $(HEADERS)/a.h 'one' && $(location fix.sh) $(genDir)".toList
  tools := ["mkhdr".toList]
  toolFiles := ["fix.sh".toList]
  exportIncludeDirs := []
  exportSourceDirs := []
  depRoot := none
  depFiles := ["in".toList]

/-- **A module without errors** has its tools, and the rule for its command. -/
theorem generate_eq_some (h : generateAndroidBuildActions ctx props = some m)
    (herrors : m.errors = []) :
    ∃ m₁ m₂ rawCommand,
      Adds (start ctx props) m₁ (declared ctx props) ∧
      (lineageExpandVariables ctx m₁ (string props.cmd)).2 = m₂ ∧ m₂.errors = [] ∧
      ctx.expander.expand (commandVariable props (ctx.expandSources props.toolFiles) m₂.tools)
        (lineageExpandVariables ctx m₁ (string props.cmd)).1 = .ok rawCommand ∧
      m = makeRule ctx m₂ rawCommand := by
  have htools := (adds_findTools ctx props).trans
    (adds_toolFiles (findTools ctx props) (ctx.expandSources props.toolFiles))
  unfold generateAndroidBuildActions at h
  dsimp only at h
  split at h
  · next hfail =>
    cases h
    exact absurd herrors hfail
  · generalize (ctx.expandSources props.toolFiles).foldl addToolFile (findTools ctx props) = m₀
      at h htools
    have hroot := adds_depRoot ctx props m₀
    generalize depRoot ctx props m₀ = r at h hroot
    have hglob := adds_globDepFiles ctx r.1 props.depFiles r.2
    have hfalse := @globDepFiles_false ctx r.2 r.1 props.depFiles
    generalize globDepFiles ctx r.1 props.depFiles r.2 = g at h hglob hfalse
    obtain ⟨m₁, ok⟩ := g
    cases ok with
    | false =>
        cases h
        exact absurd herrors (hfalse rfl)
    | true =>
        have hstart : Adds (start ctx props) m₁ (declared ctx props) := by
          have hall := htools.trans (hroot.trans hglob)
          rwa [List.append_nil, List.append_nil] at hall
        dsimp only at h
        split at h
        · cases h
        · cases h
          exact absurd herrors (by simp [Module.propertyErrorf])
        · next rawCommand hraw =>
          cases h
          exact ⟨m₁, _, rawCommand, hstart, rfl, herrors, hraw, rfl⟩

/-- **Every label has one tool.** In a module without errors the labels are all different, and the
rule depends on each of the tools. -/
theorem tools_of_generate (h : generateAndroidBuildActions ctx props = some m)
    (herrors : m.errors = []) :
    m.tools = declared ctx props ∧ ((declared ctx props).map Prod.fst).Nodup ∧
      m.implicitDeps = (declared ctx props).map Prod.snd := by
  obtain ⟨m₁, m₂, rawCommand, hadds, hexpand, hgood, -, rfl⟩ := generate_eq_some h herrors
  have hall := hadds.trans (adds_lineageExpandVariables ctx m₁ (string props.cmd))
  rw [hexpand, List.append_nil] at hall
  obtain ⟨-, htools, hdeps, hnodup⟩ := hall hgood
  have htools' : m₂.tools = declared ctx props := htools
  refine ⟨htools', ?_, hdeps⟩
  rw [← htools']
  exact hnodup List.nodup_nil

end VendorRs.Generator
