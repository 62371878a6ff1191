import VendorRs.Sbox.Moving

/-!
# The sandbox and the command in it

What `prepare` leaves when the command is about to run, and what it leaves when it fails
(`prepared`, `prepare_eq_error`), and how the rest of `run` goes on from there
(`inSandbox_eq_ok`, `inSandbox_eq_error`).

Of the command only one thing is asked, that it writes to its sandbox and nowhere else
(`Confined`). That is what the sandbox is there for, but nothing enforces it.
-/

namespace VendorRs.Sbox

open Paths FileTree

variable {env : Env} {flags : Flags} {t t' : Tree} {sb : Sandbox} {q ns : List Name}

/-! ## The directories -/

theorem get_removeAll_path {path : String} (h : removeAll env path t = .ok t') :
    t'.get q = if env.at path <+: q then none else t.get q := by
  unfold removeAll at h
  split at h
  · cases h
  · exact get_removeAll h

theorem of_setupDirectories (h : setupDirectories env flags t = .ok t') :
    t'.get (env.at flags.outputRoot) = some .dir ∧
      ∀ ns, ns ≠ [] → t'.get (env.at flags.outputRoot ++ ns) = none := by
  obtain ⟨t₁, -, h⟩ := call_bind_eq_ok.mp h
  obtain ⟨t₂, h₂, h⟩ := call_bind_eq_ok.mp h
  have h₃ := call_eq_ok.mp h
  constructor
  · rw [get_mkdirAll h₃, if_pos List.prefix_rfl]
  · intro ns hne
    rw [get_mkdirAll h₃, if_neg, get_removeAll_path h₂, if_pos (List.prefix_append _ _)]
    intro hpre
    have := hpre.length_le
    have := List.length_pos_of_ne_nil hne
    rw [List.length_append] at *
    omega

/-- Outside of the output root, and but for the directories on the way, nothing changes. -/
theorem left_setupDirectories (hR : ¬ env.at flags.outputRoot <+: q)
    (hqR : ¬ q <+: env.at flags.outputRoot) (hqS : ¬ q <+: env.at flags.sandboxesRoot) :
    (left (setupDirectories env flags t)).get q = t.get q := by
  cases h : setupDirectories env flags t with
  | ok t' =>
      obtain ⟨t₁, h₁, h⟩ := call_bind_eq_ok.mp h
      obtain ⟨t₂, h₂, h⟩ := call_bind_eq_ok.mp h
      rw [left, get_mkdirAll (call_eq_ok.mp h), if_neg hqR, get_removeAll_path h₂, if_neg hR,
        get_mkdirAll h₁, if_neg hqS]
  | error e =>
      rcases call_bind_eq_error.mp h with ⟨_, -, rfl⟩ | ⟨t₁, h₁, h⟩
      · rfl
      · rcases call_bind_eq_error.mp h with ⟨_, -, rfl⟩ | ⟨t₂, h₂, h⟩
        · rw [left, get_mkdirAll h₁, if_neg hqS]
        · obtain ⟨_, -, rfl⟩ := call_eq_error.mp h
          rw [left, get_removeAll_path h₂, if_neg hR, get_mkdirAll h₁, if_neg hqS]

/-- Where it fails, the output root is as it was or has nothing in it. -/
theorem setupDirectories_fails (hsep : ¬ env.at flags.outputRoot <+: env.at flags.sandboxesRoot)
    {f : Failure} (h : setupDirectories env flags t = .error (f, t')) :
    (∀ q, env.at flags.outputRoot <+: q → t'.get q = t.get q) ∨
      ∀ q, env.at flags.outputRoot <+: q → t'.get q = none := by
  have hsame {t₁ : Tree} (h₁ : t.mkdirAll (env.at flags.sandboxesRoot) = .ok t₁) (q)
      (hq : env.at flags.outputRoot <+: q) : t₁.get q = t.get q := by
    rw [get_mkdirAll h₁, if_neg fun hpre => hsep (hq.trans hpre)]
  rcases call_bind_eq_error.mp h with ⟨_, -, heq⟩ | ⟨t₁, h₁, h⟩
  · cases heq
    exact .inl fun _ _ => rfl
  · rcases call_bind_eq_error.mp h with ⟨_, -, heq⟩ | ⟨t₂, h₂, h⟩
    · cases heq
      exact .inl (hsame h₁)
    · obtain ⟨_, -, heq⟩ := call_eq_error.mp h
      cases heq
      exact .inr fun q hq => by rw [get_removeAll_path h₂, if_pos hq]

/-- A new directory in the sandboxes root. -/
theorem of_makeTempDir {root p : Path Name} (h : makeTempDir env root t = .ok (p, t')) :
    ∃ n, walk env.cwd p = walk env.cwd root ++ [n] ∧ t.get (walk env.cwd root) = some .dir ∧
      t.get (walk env.cwd p) = none ∧ t.mkdirAll (walk env.cwd p) = .ok t' := by
  unfold makeTempDir at h
  split at h
  · next hdir =>
    split at h
    · next n hn =>
      obtain ⟨t₁, h₁, heq⟩ := bind_eq_ok.mp h
      cases heq
      exact ⟨n, walk_names _ _ _, isDir_iff.mp hdir, by simpa using List.find?_some hn, h₁⟩
    · cases h
  · cases h

/-- What is there when the sandbox has been made. -/
structure Prepared (env : Env) (flags : Flags) (t : Tree) (sb : Sandbox) : Prop where
  inRoot : ∃ n, walk env.cwd sb.tempDir = env.at flags.sandboxesRoot ++ [n]
  apart : Apart (walk env.cwd sb.tempDir) (env.at flags.outputRoot)
  tempDir : sb.tree.get (walk env.cwd sb.tempDir) = some .dir
  sandboxesRoot : sb.tree.get (env.at flags.sandboxesRoot) = some .dir
  fresh : ∀ q, walk env.cwd sb.tempDir <+: q → t.get q = none
  outputRoot : sb.tree.get (env.at flags.outputRoot) = some .dir
  empty : ∀ ns, ns ≠ [] → sb.tree.get (env.at flags.outputRoot ++ ns) = none
  outside : ∀ q, ¬ env.at flags.outputRoot <+: q → ¬ q <+: env.at flags.outputRoot →
    ¬ q <+: env.at flags.sandboxesRoot → ¬ walk env.cwd sb.tempDir <+: q →
    sb.tree.get q = t.get q

/-- The steps of `prepare`, where it does not fail. -/
theorem prepare_eq_ok (h : prepare env flags t = .ok sb) :
    ∃ t₁, setupDirectories env flags t = .ok t₁ ∧
      makeTempDir env (ofText flags.sandboxesRoot.toList) t₁ = .ok (sb.tempDir, sb.tree) ∧
      sb.allOutputs = declared flags ∧ (depfileOutputs flags).isSome := by
  unfold prepare at h
  split at h
  · cases h
  · obtain ⟨t₁, h₁, h⟩ := bind_eq_ok.mp h
    refine ⟨t₁, h₁, ?_⟩
    dsimp only at h
    split at h
    · cases h
    · next outputs houtputs =>
      split at h
      · cases h
      · next depfile hdepfile =>
        split at h
        · cases h
        · next htemp =>
          cases h
          exact ⟨htemp, by simp [declared, houtputs, hdepfile], by simp [hdepfile]⟩

/-- Where the depfile is to be written stands in the command for its marker. -/
theorem rawCommand_of_prepare {depfile : List String}
    (hdepfile : depfileOutputs flags = some depfile)
    (h : prepare env flags t = .ok sb) :
    sb.rawCommand = depfile.foldl (fun command output =>
      replace command sboxDepfile (String.ofList (joinPath sb.tempDir output).text))
      flags.rawCommand := by
  unfold prepare at h
  split at h
  · cases h
  · obtain ⟨t₁, -, h⟩ := bind_eq_ok.mp h
    dsimp only at h
    rw [hdepfile] at h
    split at h
    · cases h
    · dsimp only at h
      split at h
      · cases h
      · cases h
        rfl

/-- Where `prepare` fails: before anything, in the directories, or with a new directory made for
nothing. -/
theorem prepare_eq_error {f : Failure} (h : prepare env flags t = .error (f, t')) :
    t' = t ∨ setupDirectories env flags t = .error (f, t') ∨
      ∃ t₁, setupDirectories env flags t = .ok t₁ ∧
        (t' = t₁ ∨ (f = .outputPrefix ∨ f = .rel) ∧
          ∃ p, makeTempDir env (ofText flags.sandboxesRoot.toList) t₁ = .ok (p, t')) := by
  unfold prepare at h
  split at h
  · cases h
    exact .inl rfl
  · rcases bind_eq_error.mp h with h | ⟨t₁, h₁, h⟩
    · exact .inr (.inl h)
    · refine .inr (.inr ⟨t₁, h₁, ?_⟩)
      dsimp only at h
      cases htemp : makeTempDir env (ofText flags.sandboxesRoot.toList) t₁ with
      | error errno =>
          left
          rw [htemp] at h
          split at h
          · cases h
            rfl
          · split at h
            · cases h
              rfl
            · cases h
              rfl
      | ok made =>
          obtain ⟨p, t₂⟩ := made
          right
          rw [htemp] at h
          split at h
          · cases h
            exact ⟨.inl rfl, p, rfl⟩
          · split at h
            · cases h
              exact ⟨.inr rfl, p, rfl⟩
            · cases h

theorem prepared (hsep : ¬ env.at flags.outputRoot <+: env.at flags.sandboxesRoot)
    (h : prepare env flags t = .ok sb) : Prepared env flags t sb := by
  obtain ⟨t₁, h₁, htemp, -, -⟩ := prepare_eq_ok h
  obtain ⟨n, hwalk, hroot, hfree, hmade⟩ := of_makeTempDir htemp
  obtain ⟨hdir, hempty⟩ := of_setupDirectories h₁
  have hapart : Apart (walk env.cwd sb.tempDir) (env.at flags.outputRoot) := by
    constructor
    · intro hpre
      by_cases heq : walk env.cwd sb.tempDir = env.at flags.outputRoot
      · rw [heq, hdir] at hfree
        cases hfree
      · rw [get_of_below (by rw [hfree]; simp) hpre heq] at hdir
        cases hdir
    · intro hpre
      rw [hwalk] at hpre
      rcases List.prefix_concat_iff.mp hpre with heq | hpre
      · rw [hwalk, ← heq, hdir] at hfree
        cases hfree
      · exact hsep hpre
  have hsame {q} (hR : ¬ env.at flags.outputRoot <+: q) (hqR : ¬ q <+: env.at flags.outputRoot)
      (hqS : ¬ q <+: env.at flags.sandboxesRoot) : t₁.get q = t.get q := by
    have := left_setupDirectories (t := t) hR hqR hqS
    rwa [h₁] at this
  exact {
    inRoot := ⟨n, hwalk⟩
    apart := hapart
    tempDir := by rw [get_mkdirAll hmade, if_pos List.prefix_rfl]
    sandboxesRoot := by
      rw [get_mkdirAll hmade, if_pos]
      rw [hwalk]
      exact List.prefix_append _ _
    fresh := by
      intro q hq
      have hbelow : t₁.get q = none := by
        by_cases heq : walk env.cwd sb.tempDir = q
        · rw [← heq, hfree]
        · exact get_of_below (by rw [hfree]; simp) hq heq
      obtain ⟨r, rfl⟩ := hq
      rw [← hsame, hbelow]
      · exact fun hpre => hapart.symm.not_prefix (s := r) (r := []) (by simpa using hpre)
      · exact fun hpre => hapart.1 ((List.prefix_append _ _).trans hpre)
      · intro hpre
        have hlen := hpre.length_le
        rw [List.length_append, hwalk, List.length_append, List.length_singleton] at hlen
        change _ ≤ (walk env.cwd (ofText flags.sandboxesRoot.toList)).length at hlen
        omega
    outputRoot := by
      rw [get_mkdirAll hmade, if_neg hapart.2, hdir]
    empty := by
      intro ns hne
      rw [get_mkdirAll hmade, if_neg, hempty ns hne]
      exact fun hpre => hapart.2 ((List.prefix_append _ _).trans hpre)
    outside := by
      intro q hR hqR hqS hT
      rw [get_mkdirAll hmade, if_neg, hsame hR hqR hqS]
      intro hpre
      rw [hwalk] at hpre hT
      rcases List.prefix_concat_iff.mp hpre with heq | hpre
      · exact hT (heq ▸ List.prefix_rfl)
      · exact hqS hpre }

/-! ## The command -/

/-- The directories of the outputs are made inside the sandbox. -/
theorem left_makeDirs {tempDir : Path Name} {os : List String} (hos : ∀ o ∈ os, Inside o)
    (hdir : t.get (walk env.cwd tempDir) = some .dir) (hq : ¬ walk env.cwd tempDir <+: q) :
    (left (makeDirs env tempDir os t)).get q = t.get q := by
  induction os generalizing t with
  | nil => rfl
  | cons o os ih =>
      obtain ⟨ho, hos⟩ := List.forall_mem_cons.mp hos
      obtain ⟨r, hr⟩ := prefix_walk_joinDir env.cwd tempDir ho
      rw [makeDirs, ← hr]
      cases hmade : t.mkdirAll (walk env.cwd tempDir ++ r) with
      | error errno => rfl
      | ok t₁ =>
          have hdir₁ : t₁.get (walk env.cwd tempDir) = some .dir := by
            rw [get_mkdirAll hmade, if_pos (List.prefix_append _ _)]
          exact (ih hos hdir₁).trans (get_mkdirAll_below hdir hmade hq)

/-- The command writes to its sandbox only. -/
def Confined (env : Env) (sb : Sandbox) : Prop :=
  ∀ t q, ¬ walk env.cwd sb.tempDir <+: q → (env.bash sb.command t).1.get q = t.get q

/-- How `inSandbox` succeeds. -/
theorem inSandbox_eq_ok (h : inSandbox env flags sb = .ok t') :
    ∃ dirs after files t₁, makeDirs env sb.tempDir sb.allOutputs sb.tree = .ok dirs ∧
      env.bash sb.command dirs = (after, .success) ∧
      (flags.copyAllOutput = false →
        missingOutputErrors env sb.tempDir sb.allOutputs after = []) ∧
      filePathList env flags sb after = some files ∧
      moveOutputs env sb.tempDir (ofText flags.outputRoot.toList) files after = .ok t₁ ∧
      rewriteDepfile env flags t₁ = .ok t' := by
  obtain ⟨dirs, hdirs, h⟩ := bind_eq_ok.mp h
  dsimp only at h
  split at h
  · cases h
  · cases h
  · next hexit =>
    split at h
    · split at h <;> cases h
    · next hmissing =>
      split at h
      · cases h
      · next files hfiles =>
        obtain ⟨t₁, h₁, h⟩ := bind_eq_ok.mp h
        exact ⟨dirs, _, files, t₁, hdirs, Prod.ext rfl hexit, fun hcopy => by
          simpa [hcopy] using hmissing, hfiles, h₁, h⟩

/-- How it fails: while the directories are made, when the command is over, or later. -/
theorem inSandbox_eq_error {f : Failure} (h : inSandbox env flags sb = .error (f, t')) :
    makeDirs env sb.tempDir sb.allOutputs sb.tree = .error (f, t') ∨
    ∃ dirs after exit, makeDirs env sb.tempDir sb.allOutputs sb.tree = .ok dirs ∧
      env.bash sb.command dirs = (after, exit) ∧
      (t' = after ∨ ∃ files,
        (flags.copyAllOutput = false →
          missingOutputErrors env sb.tempDir sb.allOutputs after = []) ∧
        filePathList env flags sb after = some files ∧
        (moveOutputs env sb.tempDir (ofText flags.outputRoot.toList) files after = .error (f, t') ∨
          ∃ t₁, moveOutputs env sb.tempDir (ofText flags.outputRoot.toList) files after = .ok t₁ ∧
            rewriteDepfile env flags t₁ = .error (f, t'))) := by
  rcases bind_eq_error.mp h with h | ⟨dirs, hdirs, h⟩
  · exact .inl h
  · right
    refine ⟨dirs, (env.bash sb.command dirs).1, (env.bash sb.command dirs).2, hdirs, rfl, ?_⟩
    dsimp only at h
    split at h
    · cases h
      exact .inl rfl
    · cases h
      exact .inl rfl
    · split at h
      · split at h
        · cases h
          exact .inl rfl
        · cases h
          exact .inl rfl
      · next hmissing =>
        split at h
        · cases h
          exact .inl rfl
        · next files hfiles =>
          exact .inr ⟨files, fun hcopy => by simpa [hcopy] using hmissing, hfiles,
            bind_eq_error.mp h⟩

/-- What the command leaves outside of its sandbox is what it found. -/
theorem after_outside {dirs after : Tree} {exit : Exit} (hp : Prepared env flags t sb)
    (hin : ∀ o ∈ sb.allOutputs, Inside o) (hconf : Confined env sb)
    (hdirs : makeDirs env sb.tempDir sb.allOutputs sb.tree = .ok dirs)
    (hafter : env.bash sb.command dirs = (after, exit)) (hq : ¬ walk env.cwd sb.tempDir <+: q) :
    after.get q = sb.tree.get q := by
  have hbash := hconf dirs q hq
  have hmade := left_makeDirs hin hp.tempDir hq
  rw [hafter] at hbash
  rw [hdirs] at hmade
  exact hbash.trans hmade

end VendorRs.Sbox
