import VendorRs.Sbox.Sandbox

/-!
# What a run publishes

Where a run succeeds, the output root holds the wanted files and nothing else (`run_publishes`), the
depfile among them where it was asked for (`run_writes_depfile`). Where it fails, nothing is
published (`run_publishes_nothing`).

The output root must not contain the sandboxes, the outputs must name places in the sandbox, and the
command must write to its sandbox only (`Confined`).
-/

namespace VendorRs.Sbox

open Paths FileTree

variable {env : Env} {flags : Flags} {t t' : Tree} {sb : Sandbox} {q ns : List Name}

/-! ## What is moved -/

@[simp] theorem relText_pathOfNames (ns : List Name) :
    relText (String.ofList (pathOfNames ns).text).toList = pathOfNames ns := by
  rw [String.toList_ofList]
  exact relText_text rfl

@[simp] theorem names_pathOfNames (ns : List Name) :
    names (String.ofList (pathOfNames ns).text) = ns := by
  rw [names, relText_pathOfNames]
  rfl

/-- The files that are published: the declared ones, or all. -/
def Wanted (env : Env) (flags : Flags) (sb : Sandbox) (after : Tree) (ns : List Name) : Prop :=
  if flags.copyAllOutput then after.isFile (walk env.cwd sb.tempDir ++ ns) = true
  else ∃ o ∈ sb.allOutputs, names o = ns

theorem wanted_iff {after : Tree} {files : List String}
    (h : filePathList env flags sb after = some files) :
    Wanted env flags sb after ns ↔ ∃ o ∈ files, names o = ns := by
  unfold filePathList findAllFilesUnder at h
  unfold Wanted
  split at h
  · next hcopy =>
    rw [if_pos hcopy]
    split at h
    · cases h
    · cases h
      simp only [List.mem_map, exists_exists_and_eq_and, mem_filesUnder]
      constructor
      · intro hfile
        exact ⟨ns, hfile, names_pathOfNames ns⟩
      · rintro ⟨ns', hfile, hns⟩
        rwa [← hns.symm.trans (names_pathOfNames ns')] at hfile
  · next hcopy =>
    cases h
    rw [if_neg hcopy]

/-- A file in place of the sandbox cannot be moved to the output root. -/
theorem moveOutput_here {tempDir outputRoot : Path Name} {o : String}
    (hapart : Apart (walk env.cwd tempDir) (walk env.cwd outputRoot))
    (hdir : t.get (walk env.cwd outputRoot) = some .dir)
    (ho : relText o.toList = pathOfNames []) :
    ¬ ∃ t', moveOutput env tempDir outputRoot o t = .ok t' := by
  rintro ⟨t', hmove⟩
  have hwalk (base : Path Name) : walk env.cwd (joinPath base o) = walk env.cwd base := by
    rw [joinPath, walk_joinText, ho, descend_of_ups rfl]
    exact List.append_nil _
  unfold moveOutput at hmove
  simp only [hwalk] at hmove
  obtain ⟨t₁, h₁, hmove₁⟩ := call_bind_eq_ok.mp hmove
  obtain ⟨t₂, h₂, hmove₂⟩ := call_bind_eq_ok.mp hmove₁
  apply (of_rename_eq_ok (call_eq_ok.mp hmove₂)).2.1
  rw [get_update h₂, if_neg, get_mkdirAll h₁]
  · split
    · rfl
    · exact hdir
  · intro heq
    exact hapart.1 (heq ▸ List.prefix_rfl)

/-- Nor does the attempt make a file there, or anything elsewhere. -/
theorem left_moveOutput_here {tempDir outputRoot : Path Name} {o : String}
    (hdir : t.get (walk env.cwd outputRoot) = some .dir)
    (ho : relText o.toList = pathOfNames [])
    (hmove : ¬ ∃ t', moveOutput env tempDir outputRoot o t = .ok t')
    (hq : ¬ walk env.cwd tempDir <+: q) :
    ((left (moveOutput env tempDir outputRoot o t)).isFile q → t.isFile q) ∧
      (¬ walk env.cwd outputRoot <+: q →
        (left (moveOutput env tempDir outputRoot o t)).get q = t.get q) := by
  have hwalk (base : Path Name) : walk env.cwd (joinPath base o) = walk env.cwd base := by
    rw [joinPath, walk_joinText, ho, descend_of_ups rfl]
    exact List.append_nil _
  have hne : q ≠ walk env.cwd tempDir := fun heq => hq (heq ▸ List.prefix_rfl)
  cases h : moveOutput env tempDir outputRoot o t with
  | ok t' => exact absurd ⟨t', h⟩ hmove
  | error e =>
      unfold moveOutput at h
      simp only [hwalk] at h
      rcases call_bind_eq_error.mp h with ⟨_, -, rfl⟩ | ⟨t₁, h₁, h⟩
      · exact ⟨id, fun _ => rfl⟩
      · -- the directory that is made is on one line with the output root
        have hline := walk_dir_comparable env.cwd (joinPath outputRoot o)
        rw [hwalk] at hline
        have hget (hroot : ¬ walk env.cwd outputRoot <+: q) : t₁.get q = t.get q := by
          rw [get_mkdirAll h₁]
          split
          · next hpre =>
            have hup : q <+: walk env.cwd outputRoot := by
              rcases hline with hline | hline
              · exact hpre.trans hline
              · exact (List.prefix_or_prefix_of_prefix hpre hline).resolve_right hroot
            obtain ⟨r, hr⟩ := hup
            have hr' : r ≠ [] := by
              rintro rfl
              exact hroot (by rw [← hr, List.append_nil])
            exact (get_of_isSome_append hr' (by rw [hr, hdir]; rfl)).symm
          · rfl
        rcases call_bind_eq_error.mp h with ⟨_, -, rfl⟩ | ⟨t₂, h₂, h⟩
        · exact ⟨isFile_of_mkdirAll h₁, hget⟩
        · have hsame : t₂.get q = t₁.get q := (get_update h₂).trans (if_neg hne)
          obtain ⟨_, -, rfl⟩ := call_eq_error.mp h
          refine ⟨fun hfile => isFile_of_mkdirAll h₁ ?_, fun hroot => hsame.trans (hget hroot)⟩
          rw [isFile_iff] at hfile ⊢
          rwa [left, hsame] at hfile

/-- What is moved are files below the sandbox, unless the command has put a file in its place. -/
theorem filePathList_files {after : Tree} {files : List String}
    (hin : ∀ o ∈ sb.allOutputs, Inside o)
    (hmissing : flags.copyAllOutput = false →
      missingOutputErrors env sb.tempDir sb.allOutputs after = [])
    (hfiles : filePathList env flags sb after = some files) :
    (∀ o ∈ files, Inside o ∧ after.isFile (walk env.cwd sb.tempDir ++ names o)) ∨
      ∃ o rest, files = o :: rest ∧ relText o.toList = pathOfNames [] := by
  unfold filePathList at hfiles
  split at hfiles
  · unfold findAllFilesUnder at hfiles
    split at hfiles
    · cases hfiles
    · cases hfiles
      by_cases hhere : after.isFile (walk env.cwd sb.tempDir)
      · right
        have hmem : [] ∈ after.filesUnder (walk env.cwd sb.tempDir) := by
          rwa [mem_filesUnder, List.append_nil]
        obtain ⟨ns, rest, hlist⟩ := List.exists_cons_of_ne_nil (List.ne_nil_of_mem hmem)
        -- nothing is below a file
        have hns : ns = [] := by
          have hfile := mem_filesUnder.mp (hlist ▸ List.mem_cons_self : ns ∈ after.filesUnder _)
          have heq :=
            eq_of_prefix_of_isFile (List.prefix_append _ ns) hhere (isSome_of_isFile hfile)
          exact List.append_cancel_left (heq.symm.trans (List.append_nil _).symm)
        rw [hlist, hns]
        exact ⟨_, _, rfl, relText_pathOfNames []⟩
      · left
        intro o ho
        obtain ⟨ns, hns, rfl⟩ := List.mem_map.mp ho
        have hfile := mem_filesUnder.mp hns
        refine ⟨⟨by rw [relText_pathOfNames]; rfl, ?_⟩, ?_⟩
        · rw [names_pathOfNames]
          rintro rfl
          rw [List.append_nil] at hfile
          exact hhere hfile
        · rwa [names_pathOfNames]
  · next hcopy =>
    cases hfiles
    left
    intro o ho
    refine ⟨hin o ho, ?_⟩
    have hnone := List.filterMap_eq_nil_iff.mp (hmissing (by simpa using hcopy)) o ho
    rw [walk_joinPath (hin o ho)] at hnone
    rw [isFile_iff]
    split at hnone
    · cases hnone
    · cases hnone
    · next f hf => exact ⟨f, hf⟩

/-- Different files are found, and different outputs are declared, so different places are moved. -/
theorem nodup_filePathList {after : Tree} {files : List String}
    (hnodup : (sb.allOutputs.map names).Nodup)
    (hfiles : filePathList env flags sb after = some files) : (files.map names).Nodup := by
  unfold filePathList at hfiles
  split at hfiles
  · unfold findAllFilesUnder at hfiles
    split at hfiles
    · cases hfiles
    · cases hfiles
      have hid : names ∘ (fun ns => String.ofList (pathOfNames ns).text) = id :=
        funext names_pathOfNames
      rw [List.map_map, hid, List.map_id]
      exact nodup_filesUnder
  · cases hfiles
    exact hnodup

/-! ## The depfile -/

/-- The depfile is written again in its place, and nothing else changes. -/
theorem of_rewriteDepfile (h : rewriteDepfile env flags t = .ok t') :
    (flags.depfileOut = "" ∧ t' = t) ∨
      flags.depfileOut ≠ "" ∧ ∃ f deps, t.get (env.at flags.depfileOut) = some (.file f) ∧
        env.parse f.content = some deps ∧
        ∀ q, t'.get q = if q = env.at flags.depfileOut then
          some (.file ⟨env.print { deps with output := "outputfile" }, env.now flags.depfileOut⟩)
          else t.get q := by
  unfold rewriteDepfile at h
  split at h
  · next hnone =>
    cases h
    exact .inl ⟨hnone, rfl⟩
  · next hsome =>
    obtain ⟨f, hf, h⟩ := call_bind_eq_ok.mp h
    rw [read_eq_ok] at hf
    split at h
    · cases h
    · next deps hdeps =>
      refine .inr ⟨hsome, f, deps, hf, hdeps, fun q => ?_⟩
      exact get_write (call_eq_ok.mp h)

/-- A depfile that is asked for is one more output. -/
theorem depfileOutputs_of_isSome (hsome : flags.depfileOut ≠ "")
    (h : (depfileOutputs flags).isSome) : ∃ o, depfileOutputs flags = some [o] := by
  rw [depfileOutputs, if_neg hsome] at h ⊢
  obtain ⟨os, hos⟩ := Option.isSome_iff_exists.mp h
  obtain ⟨p, -, heq⟩ := Option.map_eq_some_iff.mp hos
  exact ⟨_, hos.trans (congrArg some heq.symm)⟩

/-- Moved out of the sandbox, the depfile is where it was asked for. -/
theorem walk_depfile {o : String} {outputs : List String} (h : depfileOutputs flags = some outputs)
    (ho : o ∈ outputs) :
    walk env.cwd (joinPath (ofText flags.outputRoot.toList) o) = env.at flags.depfileOut := by
  unfold depfileOutputs at h
  split at h
  · cases h
    cases ho
  · obtain ⟨p, hp, rfl⟩ := Option.map_eq_some_iff.mp h
    obtain rfl := List.mem_singleton.mp ho
    have hrooted : p.rooted = false := rooted_of_rel hp
    rw [joinPath, walk_joinText, String.toList_ofList, relText_text hrooted, walk_rel hp, Env.at]

/-! ## The removal of the sandbox -/

/-- The removal of the sandbox is felt in the sandbox only. -/
theorem left_deferred {tempDir : Path Name} (flags : Flags) (x : Result Tree)
    (hq : ¬ walk env.cwd tempDir <+: q) :
    (left (deferred env flags tempDir x)).get q = (left x).get q := by
  have hremoved (t : Tree) :
      (((t.removeAll (walk env.cwd tempDir)).toOption).getD t).get q = t.get q := by
    cases h : t.removeAll (walk env.cwd tempDir) with
    | error e => rfl
    | ok t₁ => exact (get_removeAll h).trans (if_neg hq)
  unfold deferred
  dsimp only
  split
  · rfl
  · split
    · exact hremoved _
    · exact hremoved _

theorem deferred_ok (env : Env) (flags : Flags) (tempDir : Path Name) (t : Tree) :
    ∃ t', deferred env flags tempDir (.ok t) = .ok t' := by
  unfold deferred
  dsimp only
  split
  · exact ⟨_, rfl⟩
  · exact ⟨_, rfl⟩

theorem deferred_eq_ok {tempDir : Path Name} {x : Result Tree}
    (h : deferred env flags tempDir x = .ok t') : ∃ t₁, x = .ok t₁ := by
  unfold deferred at h
  dsimp only at h
  split at h
  · exact ⟨t', h⟩
  · split at h
    · exact ⟨_, rfl⟩
    · cases h

/-! ## A build to try it on

A command that writes one output and a depfile. -/

def sampleName (text : String) (h : IsName text.toList) : Name := ⟨text.toList, h⟩

def sampleTemp : List Name :=
  [sampleName "src" (by decide), sampleName ".temp" (by decide), sampleName "sbox1" (by decide)]

/-- A command that writes files, where it can. -/
def writes (files : List (List Name × File)) (t : Tree) : Tree :=
  files.foldl (fun t f => ((t.write f.1 f.2).toOption).getD t) t

theorem get_writes {files : List (List Name × File)} (h : ∀ f ∈ files, q ≠ f.1) :
    (writes files t).get q = t.get q := by
  induction files generalizing t with
  | nil => rfl
  | cons f files ih =>
      obtain ⟨hf, hfiles⟩ := List.forall_mem_cons.mp h
      rw [writes, List.foldl_cons]
      refine (ih hfiles).trans ?_
      cases hwrite : t.write f.1 f.2 with
      | error errno => rfl
      | ok t₁ => exact (get_write hwrite).trans (if_neg hf)

def sampleFiles : List (List Name × File) :=
  [(sampleTemp ++ [sampleName "a" (by decide)], ⟨"1", 0⟩),
    (sampleTemp ++ [sampleName "a.d" (by decide)], ⟨"a: b", 0⟩)]

def sampleEnv : Env where
  cwd := [sampleName "src" (by decide)]
  random := [sampleName "sbox1" (by decide)]
  now _ := 5
  bash _ t := (writes sampleFiles t, .success)
  parse _ := some ⟨"a", ["b"]⟩
  print deps := deps.output ++ ": " ++ " ".intercalate deps.inputs

def sampleFlags : Flags where
  sandboxesRoot := ".temp"
  rawCommand := "gen -d __SBOX_DEPFILE__ __SBOX_OUT_FILES__"
  outputRoot := "out/gen"
  keepOutDir := false
  copyAllOutput := false
  depfileOut := "out/gen/a.d"
  args := ["__SBOX_OUT_DIR__/a"]

/-- The only sandbox it can get. -/
theorem sample_tempDir (h : prepare sampleEnv flags t = .ok sb)
    (hroot : flags.sandboxesRoot = ".temp") : walk sampleEnv.cwd sb.tempDir = sampleTemp := by
  obtain ⟨t₁, -, htemp, -, -⟩ := prepare_eq_ok h
  rw [hroot] at htemp
  unfold makeTempDir at htemp
  split at htemp
  · split at htemp
    · next n hn =>
      obtain rfl : n = sampleName "sbox1" (by decide) :=
        List.mem_singleton.mp (List.mem_of_find?_eq_some hn)
      obtain ⟨t₂, -, heq⟩ := bind_eq_ok.mp htemp
      have htempDir : sb.tempDir = (ofText ".temp".toList).push (.name _) :=
        (congrArg Prod.fst (Except.ok.inj heq)).symm
      rw [htempDir]
      decide +kernel
    · cases htemp
  · cases htemp

theorem sample_confined (h : prepare sampleEnv flags t = .ok sb)
    (hroot : flags.sandboxesRoot = ".temp") : Confined sampleEnv sb := by
  intro t q hq
  rw [sample_tempDir h hroot] at hq
  apply get_writes
  intro f hf heq
  apply hq
  rw [heq]
  rcases List.mem_pair.mp hf with rfl | rfl
  · exact List.prefix_append _ _
  · exact List.prefix_append _ _

theorem sample_succeeds : ∃ t', run sampleEnv sampleFlags FileTree.empty = .ok t' := by
  have hsome : (run sampleEnv sampleFlags FileTree.empty).toOption.isSome := by decide +kernel
  cases h : run sampleEnv sampleFlags FileTree.empty with
  | ok t' => exact ⟨t', rfl⟩
  | error e =>
      rw [h] at hsome
      cases hsome

/-! ## The results -/

section Results

variable (hsep : ¬ env.at flags.outputRoot <+: env.at flags.sandboxesRoot)
  (hin : ∀ o ∈ declared flags, Inside o)
  (hconf : ∀ sb, prepare env flags t = .ok sb → Confined env sb)

include hsep hin hconf

/-- How a run succeeds. -/
theorem run_eq_ok (h : run env flags t = .ok t') :
    ∃ sb dirs after files t₁ t₂, prepare env flags t = .ok sb ∧
      makeDirs env sb.tempDir sb.allOutputs sb.tree = .ok dirs ∧
      env.bash sb.command dirs = (after, .success) ∧
      filePathList env flags sb after = some files ∧
      Moved env.now (walk env.cwd sb.tempDir) (env.at flags.outputRoot) after files t₁ ∧
      rewriteDepfile env flags t₁ = .ok t₂ ∧
      ∀ ns, t'.get (env.at flags.outputRoot ++ ns) = t₂.get (env.at flags.outputRoot ++ ns) := by
  obtain ⟨sb, hsb, hrun⟩ := bind_eq_ok.mp h
  have hp := prepared hsep hsb
  have hdeclared : sb.allOutputs = declared flags := (prepare_eq_ok hsb).choose_spec.2.2.1
  rw [← hdeclared] at hin
  obtain ⟨t₂, hsandbox⟩ := deferred_eq_ok hrun
  obtain ⟨dirs, after, files, t₁, hdirs, hafter, hmissing, hfiles, hmove, hdep⟩ :=
    inSandbox_eq_ok hsandbox
  have hout {q} (hq : ¬ walk env.cwd sb.tempDir <+: q) : after.get q = sb.tree.get q :=
    after_outside hp hin (hconf sb hsb) hdirs hafter hq
  have hroot : after.get (env.at flags.outputRoot) = some .dir := by
    rw [hout hp.apart.1, hp.outputRoot]
  have hempty (ns) (hne : ns ≠ []) : after.get (env.at flags.outputRoot ++ ns) = none := by
    rw [hout hp.apart.not_prefix_append, hp.empty ns hne]
  have hfile : ∀ o ∈ files, Inside o ∧ after.isFile (walk env.cwd sb.tempDir ++ names o) := by
    rcases filePathList_files hin hmissing hfiles with hfile | ⟨o, rest, rfl, ho⟩
    · exact hfile
    · obtain ⟨t₂, h₂, -⟩ := bind_eq_ok.mp hmove
      exact absurd ⟨t₂, h₂⟩ (moveOutput_here hp.apart hroot ho)
  obtain ⟨hmoved, -, -⟩ := of_moveOutputs hp.apart (moved_nil hroot hempty) hfile hmove
  refine ⟨sb, dirs, after, files, t₁, t₂, hsb, hdirs, hafter, hfiles, hmoved, hdep, fun ns => ?_⟩
  have := left_deferred flags (inSandbox env flags sb)
    (hp.apart.not_prefix_append (s := ns))
  rwa [hrun, hsandbox] at this

/-- **A run that succeeds publishes the wanted files and no others.** Each is what the command left
in the sandbox, but for the depfile, which is written again without the name of the sandbox. -/
theorem run_publishes (h : run env flags t = .ok t') :
    ∃ sb dirs after, prepare env flags t = .ok sb ∧
      makeDirs env sb.tempDir sb.allOutputs sb.tree = .ok dirs ∧
      env.bash sb.command dirs = (after, .success) ∧
      (∀ ns, t'.isFile (env.at flags.outputRoot ++ ns) ↔ Wanted env flags sb after ns) ∧
      ∀ ns, Wanted env flags sb after ns → ∃ f g,
        after.get (walk env.cwd sb.tempDir ++ ns) = some (.file f) ∧
        t'.get (env.at flags.outputRoot ++ ns) = some (.file g) ∧
        if flags.depfileOut ≠ "" ∧ env.at flags.outputRoot ++ ns = env.at flags.depfileOut then
          ∃ deps, env.parse f.content = some deps ∧
            g.content = env.print { deps with output := "outputfile" }
        else g.content = f.content := by
  obtain ⟨sb, dirs, after, files, t₁, t₂, hsb, hdirs, hafter, hfiles, hmoved, hdep, hleft⟩ :=
    run_eq_ok hsep hin hconf h
  refine ⟨sb, dirs, after, hsb, hdirs, hafter, fun ns => ?_, fun ns hns => ?_⟩
  · rw [wanted_iff hfiles, ← hmoved.files, isFile_iff, isFile_iff, hleft]
    rcases of_rewriteDepfile hdep with ⟨-, rfl⟩ | ⟨-, f, deps, hf, -, hget⟩
    · rfl
    · rw [hget]
      split
      · next heq => simp [heq, hf]
      · rfl
  · obtain ⟨o, ho, rfl⟩ := (wanted_iff hfiles).mp hns
    obtain ⟨f, hf, hmovedf⟩ := hmoved.file o ho
    rw [hleft]
    rcases of_rewriteDepfile hdep with ⟨hnone, rfl⟩ | ⟨hsome, f', deps, hf', hdeps, hget⟩
    · exact ⟨f, _, hf, hmovedf, by simp [hnone]⟩
    · rw [hget]
      split
      · next heq =>
        rw [heq, hf'] at hmovedf
        cases hmovedf
        refine ⟨f, _, hf, rfl, ?_⟩
        rw [if_pos ⟨hsome, heq⟩]
        exact ⟨deps, hdeps, rfl⟩
      · next hne => exact ⟨f, _, hf, hmovedf, by rw [if_neg fun h => hne h.2]⟩

omit hsep hin hconf in
theorem run_publishes_two_files :
    ∃ t', run sampleEnv sampleFlags FileTree.empty = .ok t' ∧
      ∀ ns, t'.isFile (sampleEnv.at "out/gen" ++ ns) ↔ ∃ o ∈ ["a", "a.d"], names o = ns := by
  obtain ⟨t', h⟩ := sample_succeeds
  obtain ⟨sb, _, _, hsb, -, -, hfiles, -⟩ := run_publishes (by decide +kernel) (by decide +kernel)
    (fun sb hsb => sample_confined hsb rfl) h
  refine ⟨t', h, fun ns => (hfiles ns).trans ?_⟩
  have hall : sb.allOutputs = ["a", "a.d"] := by
    rw [(prepare_eq_ok hsb).choose_spec.2.2.1]
    decide +kernel
  rw [Wanted, hall]
  exact Iff.rfl

/-- **The depfile ends up where it was asked for**, with what the command wrote to the path that it
was given for it. -/
theorem run_writes_depfile {o : String} (hdepfile : depfileOutputs flags = some [o])
    (h : run env flags t = .ok t') :
    ∃ sb dirs after f deps g, prepare env flags t = .ok sb ∧
      sb.rawCommand = replace flags.rawCommand sboxDepfile
        (String.ofList (joinPath sb.tempDir o).text) ∧
      makeDirs env sb.tempDir sb.allOutputs sb.tree = .ok dirs ∧
      env.bash sb.command dirs = (after, .success) ∧
      after.get (walk env.cwd (joinPath sb.tempDir o)) = some (.file f) ∧
      env.parse f.content = some deps ∧
      t'.get (env.at flags.depfileOut) = some (.file g) ∧
      g.content = env.print { deps with output := "outputfile" } := by
  obtain ⟨sb, dirs, after, files, t₁, t₂, hsb, hdirs, hafter, hfiles, hmoved, hdep, hleft⟩ :=
    run_eq_ok hsep hin hconf h
  have hino : Inside o := hin o (by simp [declared, hdepfile])
  have hplace : env.at flags.outputRoot ++ names o = env.at flags.depfileOut := by
    rw [← walk_depfile hdepfile (List.mem_singleton_self o), walk_joinPath hino, Env.at]
  rcases of_rewriteDepfile hdep with ⟨hnone, -⟩ | ⟨-, f', deps, hf', hdeps, hget⟩
  · simp [depfileOutputs, hnone] at hdepfile
  · -- it could be read, so it was among what was moved
    rw [← hplace] at hf'
    obtain ⟨o', ho', hnames⟩ := hmoved.files.mp (isFile_iff.mpr ⟨f', hf'⟩)
    obtain ⟨f, hf, hmovedf⟩ := hmoved.file o' ho'
    rw [hnames, hf'] at hmovedf
    cases hmovedf
    refine ⟨sb, dirs, after, f, deps,
      ⟨env.print { deps with output := "outputfile" }, env.now flags.depfileOut⟩, hsb,
      rawCommand_of_prepare hdepfile hsb, hdirs, hafter, ?_, hdeps, ?_, rfl⟩
    · rw [walk_joinPath hino, ← hnames, hf]
    · rw [← hplace, hleft, hget, if_pos hplace]

omit hsep hin hconf in
theorem run_writes_depfile_rewritten :
    ∃ t' g, run sampleEnv sampleFlags FileTree.empty = .ok t' ∧
      t'.get (sampleEnv.at "out/gen/a.d") = some (.file g) ∧ g.content = "outputfile: b" := by
  obtain ⟨t', h⟩ := sample_succeeds
  obtain ⟨_, _, _, _, deps, g, -, -, -, -, -, hdeps, hg, hcontent⟩ :=
    run_writes_depfile (o := "a.d") (by decide +kernel) (by decide +kernel)
      (fun sb hsb => sample_confined hsb rfl) (by decide +kernel) h
  cases hdeps
  exact ⟨t', g, h, hg, hcontent⟩

omit hin hconf in
/-- A run that does not get to the command publishes nothing. -/
theorem prepare_publishes_nothing {f : Failure} (h : prepare env flags t = .error (f, t')) :
    (∀ q, env.at flags.outputRoot <+: q → t'.get q = t.get q) ∨
      ∀ ns, ¬ t'.isFile (env.at flags.outputRoot ++ ns) := by
  have hempty {t₁ : Tree} (h₁ : setupDirectories env flags t = .ok t₁) (ns) :
      ¬ t₁.isFile (env.at flags.outputRoot ++ ns) := by
    rw [isFile_iff]
    rintro ⟨f, hf⟩
    by_cases hne : ns = []
    · rw [hne, List.append_nil, (of_setupDirectories h₁).1] at hf
      cases hf
    · rw [(of_setupDirectories h₁).2 ns hne] at hf
      cases hf
  rcases prepare_eq_error h with rfl | hsetup | ⟨t₁, h₁, rfl | ⟨-, p, htemp⟩⟩
  · exact .inl fun _ _ => rfl
  · rcases setupDirectories_fails hsep hsetup with hsame | hnone
    · exact .inl hsame
    · refine .inr fun ns hfile => ?_
      obtain ⟨f, hf⟩ := isFile_iff.mp hfile
      rw [hnone _ (List.prefix_append _ _)] at hf
      cases hf
  · exact .inr (hempty h₁)
  · obtain ⟨n, -, -, -, hmade⟩ := of_makeTempDir htemp
    exact .inr fun ns hfile => hempty h₁ ns (isFile_of_mkdirAll hmade hfile)

omit hsep hin hconf in
/-- As long as only the sandbox has changed there is nothing at the output root. -/
theorem Prepared.no_file (hp : Prepared env flags t sb)
    (hsame : ∀ q, ¬ walk env.cwd sb.tempDir <+: q → t'.get q = sb.tree.get q) (ns : List Name) :
    ¬ t'.isFile (env.at flags.outputRoot ++ ns) := by
  rw [isFile_iff, hsame _ hp.apart.not_prefix_append]
  rintro ⟨f, hf⟩
  by_cases hne : ns = []
  · rw [hne, List.append_nil, hp.outputRoot] at hf
    cases hf
  · rw [hp.empty ns hne] at hf
    cases hf

/-- The files are moved all or not at all, unless there is a depfile to go wrong behind them. -/
theorem inSandbox_publishes_nothing (hdep : flags.depfileOut = "")
    (hnodup : ((declared flags).map names).Nodup) (hsb : prepare env flags t = .ok sb)
    {f : Failure} (h : inSandbox env flags sb = .error (f, t')) (ns : List Name) :
    ¬ t'.isFile (env.at flags.outputRoot ++ ns) := by
  have hp := prepared hsep hsb
  have hdeclared : sb.allOutputs = declared flags := (prepare_eq_ok hsb).choose_spec.2.2.1
  rw [← hdeclared] at hin hnodup
  have hT : ¬ walk env.cwd sb.tempDir <+: env.at flags.outputRoot ++ ns :=
    hp.apart.not_prefix_append
  rcases inSandbox_eq_error h with hdirs | ⟨dirs, after, exit, hdirs, hafter, hlate⟩
  · apply hp.no_file
    intro q hq
    have := left_makeDirs hin hp.tempDir hq
    rwa [hdirs] at this
  · have hout {q} (hq : ¬ walk env.cwd sb.tempDir <+: q) : after.get q = sb.tree.get q :=
      after_outside hp hin (hconf sb hsb) hdirs hafter hq
    have hroot : after.get (env.at flags.outputRoot) = some .dir := by
      rw [hout hp.apart.1, hp.outputRoot]
    have hnone (ns) (hne : ns ≠ []) : after.get (env.at flags.outputRoot ++ ns) = none := by
      rw [hout hp.apart.not_prefix_append, hp.empty ns hne]
    rcases hlate with rfl | ⟨files, hmissing, hfiles, hmove⟩
    · exact hp.no_file (fun q hq => hout hq) ns
    · rcases filePathList_files hin hmissing hfiles with hfile | ⟨o, rest, rfl, ho⟩
      · -- files that name different places can all be moved
        obtain ⟨t₂, h₂⟩ := moveOutputs_total hp.apart (moved_nil hroot hnone) hfile
          (by simpa using nodup_filePathList hnodup hfiles)
        rcases hmove with hmove | ⟨t₃, -, hrewrite⟩
        · cases h₂.symm.trans hmove
        · simp [rewriteDepfile, hdep] at hrewrite
      · have hhere := moveOutput_here hp.apart hroot ho
        have hmove : moveOutput env sb.tempDir (ofText flags.outputRoot.toList) o after =
            .error (f, t') := by
          cases hfirst : moveOutput env sb.tempDir (ofText flags.outputRoot.toList) o after with
          | ok t₂ => exact absurd ⟨t₂, hfirst⟩ hhere
          | error e =>
              rcases hmove with hmove | ⟨t₃, hmove, -⟩
              · rw [moveOutputs, hfirst] at hmove
                exact hmove
              · rw [moveOutputs, hfirst] at hmove
                cases hmove
        have := (left_moveOutput_here hroot ho hhere hT).1
        rw [hmove] at this
        exact fun hfile => hp.no_file (fun q hq => hout hq) ns (this hfile)

theorem deferred_publishes_nothing (hdep : flags.depfileOut = "")
    (hnodup : ((declared flags).map names).Nodup) (hsb : prepare env flags t = .ok sb)
    {f : Failure} (h : deferred env flags sb.tempDir (inSandbox env flags sb) = .error (f, t'))
    (ns : List Name) : ¬ t'.isFile (env.at flags.outputRoot ++ ns) := by
  have hleft := left_deferred flags (inSandbox env flags sb)
    ((prepared hsep hsb).apart.not_prefix_append (s := ns))
  rw [h] at hleft
  change t'.get _ = _ at hleft
  rw [isFile_iff, hleft, ← isFile_iff]
  cases hsandbox : inSandbox env flags sb with
  | ok t₁ =>
      obtain ⟨_, hok⟩ := deferred_ok env flags sb.tempDir t₁
      rw [hsandbox, hok] at h
      cases h
  | error e => exact inSandbox_publishes_nothing hsep hin hconf hdep hnodup hsb hsandbox ns

/-- **All or nothing.** A run that fails leaves the output root as it was, if it gets no further
than the directories, or without any file in it. -/
theorem run_publishes_nothing (hdep : flags.depfileOut = "")
    (hnodup : ((declared flags).map names).Nodup) {f : Failure}
    (h : run env flags t = .error (f, t')) :
    (∀ q, env.at flags.outputRoot <+: q → t'.get q = t.get q) ∨
      ∀ ns, ¬ t'.isFile (env.at flags.outputRoot ++ ns) := by
  rcases bind_eq_error.mp h with h | ⟨sb, hsb, hrun⟩
  · exact prepare_publishes_nothing hsep h
  · exact .inr (deferred_publishes_nothing hsep hin hconf hdep hnodup hsb hrun)

omit hsep hin hconf in
/-- Without the output that is declared last. -/
theorem run_publishes_nothing_missing :
    ∃ f t', run sampleEnv { sampleFlags with
        depfileOut := "", args := ["__SBOX_OUT_DIR__/a", "__SBOX_OUT_DIR__/b"] }
        FileTree.empty = .error (f, t') ∧
      ((∀ q, sampleEnv.at "out/gen" <+: q → t'.get q = none) ∨
        ∀ ns, ¬ t'.isFile (sampleEnv.at "out/gen" ++ ns)) := by
  generalize hflags : { sampleFlags with
    depfileOut := "", args := ["__SBOX_OUT_DIR__/a", "__SBOX_OUT_DIR__/b"] } = flags
  have hnone : (run sampleEnv flags FileTree.empty).toOption.isNone := by
    rw [← hflags]
    decide +kernel
  cases h : run sampleEnv flags FileTree.empty with
  | ok t' =>
      rw [h] at hnone
      cases hnone
  | error e =>
      obtain ⟨f, t'⟩ := e
      refine ⟨f, t', rfl, ?_⟩
      subst hflags
      rcases run_publishes_nothing (by decide +kernel) (by decide +kernel)
        (fun sb hsb => sample_confined hsb rfl) rfl (by decide +kernel) h with hsame | hnothing
      · left
        intro q hq
        rw [hsame q hq, FileTree.empty]
        cases q with
        | nil => exact absurd hq (by decide +kernel)
        | cons n q => rfl
      · exact .inr hnothing

end Results

end VendorRs.Sbox
