import VendorRs.Generator.Command
import VendorRs.Lib.Runs

/-!
# One build of a module

Ninja has the shell run the line of the rule: `sbox_lineage` empties the output directory, runs the
command and moves what it made there, and if all of that succeeded `touch` leaves the file that says
so. That file lies in the output directory itself, so a build that fails takes the one of the build
before away with everything else (`runLine_fails`).
-/

namespace VendorRs.Generator

open Template Paths FileTree
open Shell hiding Text
open Sbox (Env Tree Flags Failure)

/-! ## The programs of the line -/

/-- What it leaves, and whether it succeeds. A directory may be touched, too. -/
def touch (now : Nat) (p : List Name) (t : Tree) : Tree × Bool :=
  match t.get p with
  | some _ =>
      match t.update p fun file => { file with mtime := now } with
      | .ok t' => (t', true)
      | .error _ => (t, false)
  | none =>
      match t.write p ⟨"", now⟩ with
      | .ok t' => (t', true)
      | .error _ => (t, false)

/-- One command of the line. -/
def exec (env : Env) (sboxCmd : Text) (now : Nat) (ws : List Text) (t : Tree) : Tree × Bool :=
  match ws with
  | [] => (t, false)
  | cmd :: args =>
      if cmd = sboxCmd then Sbox.main env args t
      else if cmd = "touch".toList then
        match args with
        | [path] => touch now (env.at (.ofList path)) t
        | _ => (t, false)
      else (t, false)

/-- What the line leaves, and whether ninja takes it for a success. -/
def runLine (env : Env) (sboxCmd : Text) (now : Nat) (line : Text) (t : Tree) : Tree × Bool :=
  match andList line with
  | none => (t, false)
  | some commands => runAll (exec env sboxCmd now) commands t

/-- The files that the command of a run leaves in its sandbox. -/
def made (env : Env) (flags : Flags) (t : Tree) (ns : List Name) : Bool :=
  match Sbox.prepare env flags t with
  | .error _ => false
  | .ok sb =>
      match Sbox.makeDirs env sb.tempDir sb.allOutputs sb.tree with
      | .error _ => false
      | .ok dirs => (env.bash sb.command dirs).1.isFile (walk env.cwd sb.tempDir ++ ns)

variable {env : Env} {ninja : Ninja} {now : Nat} {sandbox root dep text : Text} {t t' : Tree}
  {ok : Bool} {p q : List Name}

/-! ## What they leave -/

theorem get_touch (h : touch now p t = (t', ok)) (hq : q ≠ p) : t'.get q = t.get q := by
  unfold touch at h
  split at h
  · split at h
    · next t₁ h₁ =>
      cases h
      rw [get_update h₁, if_neg hq]
    · cases h
      rfl
  · split at h
    · next t₁ h₁ =>
      cases h
      rw [get_write h₁, if_neg hq]
    · cases h
      rfl

/-- In a directory it succeeds. -/
theorem touch_eq_true {n : Name} (hdir : t.get p = some .dir) :
    ∃ t', touch now (p ++ [n]) t = (t', true) ∧ (t'.get (p ++ [n])).isSome := by
  unfold touch
  split
  · next node hnode =>
    obtain ⟨t₁, h₁⟩ := update_file (t := t) (p := p ++ [n])
      (f := fun file => { file with mtime := now }) (by rw [hnode]; rfl)
    rw [h₁]
    refine ⟨t₁, rfl, ?_⟩
    rw [get_update h₁, if_pos rfl, hnode]
    rfl
  · next hnone =>
    obtain ⟨t₁, h₁⟩ := write_entry hdir hnone ⟨"", now⟩
    rw [h₁]
    refine ⟨t₁, rfl, ?_⟩
    rw [get_write h₁, if_pos rfl]
    rfl

/-! ## The line of a rule -/

/-- What is asked of the paths on the line, and of where they lead: the file that `touch` leaves is
in the output directory, which is apart from the sandboxes. -/
structure Layout (ninja : Ninja) (cwd : List Name) (sandbox root dep : Text) : Prop where
  paths : HarmlessPaths ninja sandbox root dep
  notTouch : ninja.sboxCmd ≠ "touch".toList
  dummyDep : ∃ n, walk cwd (ofText dep) = walk cwd (ofText root) ++ [n]
  apart : Apart (walk cwd (ofText root)) (walk cwd (ofText sandbox))

/-- The line for a command. -/
def ruleLine (ninja : Ninja) (sandbox root dep rawCommand : Text) : Text :=
  ninja.line (sandboxCommand sandbox root (escape rawCommand) dep)

/-- **The line is a run, and then a touch.** -/
theorem runLine_eq (hlayout : Layout ninja env.cwd sandbox root dep) (hdollar : '$' ∉ text) :
    runLine env ninja.sboxCmd now (ruleLine ninja sandbox root dep text) t =
      match Sbox.run env (sboxFlags sandbox root text) t with
      | .ok t' => touch now (walk env.cwd (ofText dep)) t'
      | .error (_, t') => (t', false) := by
  have hrun : exec env ninja.sboxCmd now (ninja.sboxCmd :: sboxArgs sandbox root text) t =
      Sbox.exited (Sbox.run env (sboxFlags sandbox root text) t) := by
    unfold exec
    dsimp only
    rw [if_pos rfl, Sbox.main_eq (parseArgs_sboxArgs _ _ _)]
  have htouch (t : Tree) : exec env ninja.sboxCmd now ["touch".toList, dep] t =
      touch now (walk env.cwd (ofText dep)) t := by
    unfold exec
    dsimp only
    rw [if_neg (Ne.symm hlayout.notTouch), if_pos rfl, Sbox.Env.at, String.toList_ofList]
  unfold runLine ruleLine
  rw [andList_line hlayout.paths hdollar]
  dsimp only
  rw [runAll, hrun]
  cases Sbox.run env (sboxFlags sandbox root text) t with
  | error e => rfl
  | ok t₁ =>
      dsimp only [Sbox.exited]
      rw [runAll, htouch]
      rcases touch now (walk env.cwd (ofText dep)) t₁ with ⟨t₂, ok⟩
      cases ok <;> rfl

@[simp] theorem at_ofList (env : Env) (path : Text) :
    env.at (.ofList path) = walk env.cwd (ofText path) := by
  rw [Sbox.Env.at, String.toList_ofList]

/-! ## What a build leaves -/

section Results

variable {n : Name} {ns : List Name}
  (hlayout : Layout ninja env.cwd sandbox root dep)
  (hdep : walk env.cwd (ofText dep) = walk env.cwd (ofText root) ++ [n])
  (hdollar : '$' ∉ text)
  (hconf : ∀ sb, Sbox.prepare env (sboxFlags sandbox root text) t = .ok sb →
    Sbox.Confined env sb)

include hlayout in
theorem not_prefix_sandboxes :
    ¬ env.at (sboxFlags sandbox root text).outputRoot <+:
      env.at (sboxFlags sandbox root text).sandboxesRoot := by
  simpa [sboxFlags] using hlayout.apart.1

theorem inside_declared : ∀ o ∈ Sbox.declared (sboxFlags sandbox root text), Sbox.Inside o := by
  have hnone : Sbox.declared (sboxFlags sandbox root text) = [] := rfl
  simp [hnone]

include hlayout hconf in
/-- After a run that succeeds. -/
theorem of_run_eq_ok (h : Sbox.run env (sboxFlags sandbox root text) t = .ok t') :
    t'.get (walk env.cwd (ofText root)) = some .dir ∧
      ∀ ns, t'.isFile (walk env.cwd (ofText root) ++ ns) =
        made env (sboxFlags sandbox root text) t ns := by
  have hroot : env.at (sboxFlags sandbox root text).outputRoot = walk env.cwd (ofText root) :=
    at_ofList env root
  obtain ⟨sb, dirs, after, files, t₁, t₂, hsb, hdirs, hafter, hfiles, hmoved, hdone, hleft⟩ :=
    Sbox.run_eq_ok (not_prefix_sandboxes hlayout) inside_declared hconf h
  rw [hroot] at hmoved hleft
  -- there is no depfile
  cases hdone
  constructor
  · have hdir := hleft []
    rwa [List.append_nil, hmoved.dir] at hdir
  · intro ns
    rw [made, hsb]
    dsimp only
    rw [hdirs]
    dsimp only
    rw [hafter, Bool.eq_iff_iff, isFile_iff, hleft, ← isFile_iff, hmoved.files,
      ← Sbox.wanted_iff hfiles]
    exact Iff.rfl

include hlayout hconf in
/-- After a run that fails. -/
theorem of_run_eq_error {f : Failure}
    (h : Sbox.run env (sboxFlags sandbox root text) t = .error (f, t')) :
    (∀ q, walk env.cwd (ofText root) <+: q → t'.get q = t.get q) ∨
      ∀ ns, ¬ t'.isFile (walk env.cwd (ofText root) ++ ns) := by
  have hroot : env.at (sboxFlags sandbox root text).outputRoot = walk env.cwd (ofText root) :=
    at_ofList env root
  rw [← hroot]
  rcases Sbox.bind_eq_error.mp h with h | ⟨sb, hsb, hrun⟩
  · exact Sbox.prepare_publishes_nothing (not_prefix_sandboxes hlayout) h
  · exact .inr (Sbox.deferred_publishes_nothing (not_prefix_sandboxes hlayout) inside_declared hconf
      rfl List.nodup_nil hsb hrun)

include hlayout hdollar hconf

include hdep in
/-- **A build that succeeds** leaves the files that its command made, and the one that says so. -/
theorem runLine_succeeds
    (h : runLine env ninja.sboxCmd now (ruleLine ninja sandbox root dep text) t = (t', true)) :
    (t'.get (walk env.cwd (ofText root) ++ [n])).isSome ∧
      ∀ ns, ns ≠ [n] → t'.isFile (walk env.cwd (ofText root) ++ ns) =
        made env (sboxFlags sandbox root text) t ns := by
  rw [runLine_eq hlayout hdollar] at h
  split at h
  · next t₁ hrun =>
    obtain ⟨hdir, hfiles⟩ := of_run_eq_ok hlayout hconf hrun
    rw [hdep] at h
    obtain ⟨t₂, h₂, hthere⟩ := @touch_eq_true now t₁ _ n hdir
    cases h₂.symm.trans h
    refine ⟨hthere, fun ns hns => ?_⟩
    rw [← hfiles ns, Bool.eq_iff_iff, isFile_iff, isFile_iff, get_touch h]
    exact fun heq => hns (List.append_cancel_left heq)
  · cases h

include hdep in
/-- **A build that fails** leaves the output directory as it was, or no file in it. -/
theorem runLine_fails
    (h : runLine env ninja.sboxCmd now (ruleLine ninja sandbox root dep text) t = (t', false)) :
    (∀ q, walk env.cwd (ofText root) <+: q → t'.get q = t.get q) ∨
      ∀ ns, ¬ t'.isFile (walk env.cwd (ofText root) ++ ns) := by
  rw [runLine_eq hlayout hdollar] at h
  split at h
  · next t₁ hrun =>
    obtain ⟨hdir, -⟩ := of_run_eq_ok hlayout hconf hrun
    rw [hdep] at h
    obtain ⟨t₂, h₂, -⟩ := @touch_eq_true now t₁ _ n hdir
    cases h₂.symm.trans h
  · next f t₁ hrun =>
    cases h
    exact of_run_eq_error hlayout hconf hrun

include hdep in
/-- Elsewhere it leaves everything as it was. -/
theorem runLine_elsewhere (hR : ¬ walk env.cwd (ofText root) <+: q)
    (hqR : ¬ q <+: walk env.cwd (ofText root)) (hS : ¬ walk env.cwd (ofText sandbox) <+: q)
    (hqS : ¬ q <+: walk env.cwd (ofText sandbox)) :
    (runLine env ninja.sboxCmd now (ruleLine ninja sandbox root dep text) t).1.get q =
      t.get q := by
  have hleft : (Sbox.left (Sbox.run env (sboxFlags sandbox root text) t)).get q = t.get q := by
    apply Sbox.left_run (not_prefix_sandboxes hlayout) inside_declared hconf
    · simpa [sboxFlags] using hR
    · simpa [sboxFlags] using hqR
    · simpa [sboxFlags] using hS
    · simpa [sboxFlags] using hqS
  rw [runLine_eq hlayout hdollar, hdep]
  cases hrun : Sbox.run env (sboxFlags sandbox root text) t with
  | error e =>
      rw [hrun] at hleft
      exact hleft
  | ok t₁ =>
      rw [hrun] at hleft
      dsimp only
      rcases htouch : touch now (walk env.cwd (ofText root) ++ [n]) t₁ with ⟨t₂, ok⟩
      rw [get_touch htouch]
      · exact hleft
      · rintro rfl
        exact hR (List.prefix_append _ _)

end Results

end VendorRs.Generator
