import VendorRs.Sbox.Publishing

/-!
# What a run leaves elsewhere

Outside of its sandbox and its output root a run changes nothing (`left_inSandbox`), and the sandbox
goes, too, unless there is a reason to keep it (`run_cleans_up`).
-/

namespace VendorRs.Sbox

open Paths FileTree

variable {env : Env} {flags : Flags} {t t' : Tree} {sb : Sandbox} {q ns : List Name}

/-! ## Outside of the sandbox and the output root -/

theorem left_rewriteDepfile (hq : flags.depfileOut ≠ "" → q ≠ env.at flags.depfileOut) :
    (left (rewriteDepfile env flags t)).get q = t.get q := by
  unfold rewriteDepfile
  split
  · rfl
  · next hsome =>
    cases hread : t.read (env.at flags.depfileOut) with
    | error errno => rfl
    | ok f =>
        rw [call_ok]
        dsimp only [bind, Except.bind]
        split
        · rfl
        · cases hwritten : t.write (env.at flags.depfileOut) _ with
          | error errno => rfl
          | ok t₁ => exact (get_write hwritten).trans (if_neg (hq hsome))

/-- A sequence leaves what its first half leaves, where its second half leaves that alone. -/
theorem left_bind {x : Result Tree} {f : Tree → Result Tree} {v : Option (Node File)}
    (hx : (left x).get q = v) (hf : ∀ t, x = .ok t → (left (f t)).get q = t.get q) :
    (left (x >>= f)).get q = v := by
  cases x with
  | ok t => exact (hf t rfl).trans hx
  | error e => exact hx

theorem left_moveFiles {after : Tree} {files : List String} (hp : Prepared env flags t sb)
    (hin : ∀ o ∈ sb.allOutputs, Inside o)
    (hroot : after.get (env.at flags.outputRoot) = some .dir)
    (hmissing : flags.copyAllOutput = false →
      missingOutputErrors env sb.tempDir sb.allOutputs after = [])
    (hfiles : filePathList env flags sb after = some files)
    (hT : ¬ walk env.cwd sb.tempDir <+: q) (hR : ¬ env.at flags.outputRoot <+: q) :
    (left (moveOutputs env sb.tempDir (ofText flags.outputRoot.toList) files after)).get q =
      after.get q := by
  rcases filePathList_files hin hmissing hfiles with hfile | ⟨o, rest, rfl, ho⟩
  · exact left_moveOutputs hp.apart (fun o ho => (hfile o ho).1) hroot hT hR
  · have hhere := moveOutput_here hp.apart hroot ho
    rw [moveOutputs]
    apply left_bind ((left_moveOutput_here hroot ho hhere hT).2 hR)
    intro t₁ h₁
    exact absurd ⟨t₁, h₁⟩ hhere

theorem left_inSandbox (hp : Prepared env flags t sb) (hin : ∀ o ∈ sb.allOutputs, Inside o)
    (hconf : Confined env sb)
    (hdep : flags.depfileOut ≠ "" → env.at flags.outputRoot <+: env.at flags.depfileOut)
    (hT : ¬ walk env.cwd sb.tempDir <+: q) (hR : ¬ env.at flags.outputRoot <+: q) :
    (left (inSandbox env flags sb)).get q = sb.tree.get q := by
  apply left_bind (left_makeDirs hin hp.tempDir hT)
  intro dirs hdirs
  have hout {q} (hq : ¬ walk env.cwd sb.tempDir <+: q) :=
    after_outside hp hin hconf hdirs (Prod.mk.eta (p := env.bash sb.command dirs)).symm hq
  have hroot : (env.bash sb.command dirs).1.get (env.at flags.outputRoot) = some .dir := by
    rw [hout hp.apart.1, hp.outputRoot]
  have hafter : (env.bash sb.command dirs).1.get q = dirs.get q := hconf dirs q hT
  dsimp only
  split
  · exact hafter
  · exact hafter
  · split
    · split
      · exact hafter
      · exact hafter
    · next hmissing =>
      split
      · exact hafter
      · next files hfiles =>
        apply left_bind
        · rw [left_moveFiles hp hin hroot (fun hcopy => by simpa [hcopy] using hmissing) hfiles
            hT hR]
          exact hafter
        · intro t₁ _
          apply left_rewriteDepfile
          intro hsome heq
          exact hR (heq ▸ hdep hsome)

/-! ## The sandbox -/

theorem keeps_of_not_missing {x : Result Tree}
    (h : ∀ message t, x ≠ .error (.missingOutputs message, t)) :
    keeps flags x = flags.keepOutDir := by
  unfold keeps
  split
  · next message t => exact absurd rfl (h message t)
  · rfl

/-- A sandbox that is not kept is gone. -/
theorem get_left_deferred {x : Result Tree} (hp : Prepared env flags t sb)
    (hkeep : keeps flags x = false)
    (hdir : (left x).get (env.at flags.sandboxesRoot) = some .dir)
    (hq : walk env.cwd sb.tempDir <+: q) :
    (left (deferred env flags sb.tempDir x)).get q = none := by
  obtain ⟨n, hn⟩ := hp.inRoot
  obtain ⟨t₁, h₁⟩ := removeAll_entry (n := n) hdir
  rw [← hn] at h₁
  have hgone : t₁.get q = none := (get_removeAll h₁).trans (if_pos hq)
  unfold deferred
  dsimp only
  rw [if_neg (by rw [hkeep]; simp)]
  cases x with
  | ok t₀ =>
      change (((t₀.removeAll (walk env.cwd sb.tempDir)).toOption).getD t₀).get q = none
      change t₀.removeAll _ = _ at h₁
      rw [h₁]
      exact hgone
  | error e =>
      change (((e.2.removeAll (walk env.cwd sb.tempDir)).toOption).getD e.2).get q = none
      change e.2.removeAll _ = _ at h₁
      rw [h₁]
      exact hgone

section Results

variable (hsep : ¬ env.at flags.outputRoot <+: env.at flags.sandboxesRoot)
  (hin : ∀ o ∈ declared flags, Inside o)
  (hconf : ∀ sb, prepare env flags t = .ok sb → Confined env sb)

include hsep hin hconf

/-- What a run does in its sandbox, seen from outside. -/
theorem left_inSandbox_of_prepare (h : prepare env flags t = .ok sb)
    (hT : ¬ walk env.cwd sb.tempDir <+: q) (hR : ¬ env.at flags.outputRoot <+: q) :
    (left (inSandbox env flags sb)).get q = sb.tree.get q := by
  have hdeclared : sb.allOutputs = declared flags := (prepare_eq_ok h).choose_spec.2.2.1
  have hdep (hsome : flags.depfileOut ≠ "") :
      env.at flags.outputRoot <+: env.at flags.depfileOut := by
    obtain ⟨o, ho⟩ := depfileOutputs_of_isSome hsome (prepare_eq_ok h).choose_spec.2.2.2
    have hino := hin o (by simp [declared, ho])
    rw [← walk_depfile ho (List.mem_singleton_self o), walk_joinPath hino]
    exact List.prefix_append _ _
  rw [← hdeclared] at hin
  exact left_inSandbox (prepared hsep h) hin (hconf sb h) hdep hT hR

/-- Away from its two roots a run changes nothing at all. -/
theorem left_run (hR : ¬ env.at flags.outputRoot <+: q) (hqR : ¬ q <+: env.at flags.outputRoot)
    (hS : ¬ env.at flags.sandboxesRoot <+: q) (hqS : ¬ q <+: env.at flags.sandboxesRoot) :
    (left (run env flags t)).get q = t.get q := by
  cases hprepare : prepare env flags t with
  | error e =>
      obtain ⟨f, t'⟩ := e
      have hsetup := left_setupDirectories (t := t) hR hqR hqS
      rw [run, hprepare]
      change t'.get q = t.get q
      rcases prepare_eq_error hprepare with rfl | hfail | ⟨t₁, h₁, rfl | ⟨-, p, htemp⟩⟩
      · rfl
      · rwa [hfail] at hsetup
      · rwa [h₁] at hsetup
      · obtain ⟨n, hwalk, -, -, hmade⟩ := of_makeTempDir htemp
        rw [h₁] at hsetup
        rw [get_mkdirAll hmade, if_neg]
        · exact hsetup
        · rw [hwalk, List.prefix_concat_iff]
          rintro (rfl | hpre)
          · exact hS (List.prefix_append _ _)
          · exact hqS hpre
  | ok sb =>
      have hp := prepared hsep hprepare
      obtain ⟨n, hn⟩ := hp.inRoot
      have hT : ¬ walk env.cwd sb.tempDir <+: q := by
        rw [hn]
        exact fun hpre => hS ((List.prefix_append _ _).trans hpre)
      rw [run, hprepare]
      change (left (deferred env flags sb.tempDir (inSandbox env flags sb))).get q = t.get q
      rw [left_deferred flags _ hT, left_inSandbox_of_prepare hsep hin hconf hprepare hT hR,
        hp.outside q hR hqR hqS hT]

/-- **A run leaves nothing behind**, but for the directories on the way to its two roots: what lies
outside of the output root is as before, the sandbox included, unless it is kept on request or for
missing outputs, or was made before the run failed on the name of an output. -/
theorem run_cleans_up (hkeep : flags.keepOutDir = false)
    (hf : ∀ f t', run env flags t = .error (f, t') →
      f ≠ .outputPrefix ∧ f ≠ .rel ∧ ∀ message, f ≠ .missingOutputs message)
    (hR : ¬ env.at flags.outputRoot <+: q) (hqR : ¬ q <+: env.at flags.outputRoot)
    (hqS : ¬ q <+: env.at flags.sandboxesRoot) :
    (left (run env flags t)).get q = t.get q := by
  cases hprepare : prepare env flags t with
  | error e =>
      obtain ⟨f, t'⟩ := e
      have hrun : run env flags t = .error (f, t') := by
        rw [run, hprepare]
        rfl
      have hsetup := left_setupDirectories (t := t) hR hqR hqS
      rw [hrun]
      rcases prepare_eq_error hprepare with rfl | hfail | ⟨t₁, h₁, rfl | ⟨hname, -⟩⟩
      · rfl
      · rwa [hfail] at hsetup
      · rwa [h₁] at hsetup
      · obtain ⟨hstart, hrel, -⟩ := hf f t' hrun
        exact absurd hname (not_or.mpr ⟨hstart, hrel⟩)
  | ok sb =>
      have hp := prepared hsep hprepare
      have hrun : run env flags t = deferred env flags sb.tempDir (inSandbox env flags sb) := by
        rw [run, hprepare]
        rfl
      have hsandbox {q} := left_inSandbox_of_prepare (q := q) hsep hin hconf hprepare
      rw [hrun]
      by_cases hT : walk env.cwd sb.tempDir <+: q
      · rw [hp.fresh q hT]
        apply get_left_deferred hp ?_ ?_ hT
        · rw [keeps_of_not_missing, hkeep]
          intro message t₁ hx
          have hfail : run env flags t = .error (.missingOutputs message, t₁) := by
            rw [hrun, hx]
            rfl
          exact (hf _ t₁ hfail).2.2 message rfl
        · obtain ⟨n, hn⟩ := hp.inRoot
          rw [hsandbox _ hsep, hp.sandboxesRoot]
          intro hpre
          have hlen := hpre.length_le
          rw [hn, List.length_append, List.length_singleton] at hlen
          omega
      · rw [left_deferred flags _ hT, hsandbox hT hR, hp.outside q hR hqR hqS hT]

end Results

theorem run_cleans_up_sandbox :
    (left (run sampleEnv sampleFlags FileTree.empty)).get sampleTemp = none := by
  obtain ⟨t', h⟩ := sample_succeeds
  have hclean := @run_cleans_up sampleEnv sampleFlags FileTree.empty sampleTemp
    (by decide +kernel) (by decide +kernel)
    (fun sb hsb => sample_confined hsb rfl) rfl
    (fun f t₁ herror => by rw [h] at herror; cases herror)
    (by decide +kernel) (by decide +kernel) (by decide +kernel)
  rw [hclean]
  rfl

end VendorRs.Sbox
