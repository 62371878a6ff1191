import VendorRs.Generator.Step

/-!
# Builds of many modules

Ninja rebuilds a module as long as the file that `touch` leaves is not there, or is older than what
it depends on. So the file had better be right: over any sequence of builds, of any modules and with
commands that change in between, a module that has its file has in its output directory what its
last successful build made, no more and no less (`marker_complete`). The builds of one module do not
disturb those of another.
-/

namespace VendorRs.Generator

open Template Paths FileTree Runs
open Sbox (Env Tree Flags)

/-- Where a module is generated. -/
structure Target where
  genDir : Text
  dummyDep : Text

/-- The modules of a tree. Their output directories are apart. -/
structure Project (ι : Type) where
  ninja : Ninja
  cwd : List Name
  sandboxes : Text
  target : ι → Target
  layout : ∀ i, Layout ninja cwd sandboxes (target i).genDir (target i).dummyDep
  apart : ∀ i j, i ≠ j →
    Apart (walk cwd (ofText (target i).genDir)) (walk cwd (ofText (target j).genDir))

/-- One build, with all that may be different the next time. -/
structure Build (ι : Type) where
  target : ι
  rawCommand : Text
  env : Env
  now : Nat

/-- The tree, and what the last successful build of each module has made. -/
structure World (ι : Type) where
  tree : Tree
  last : ι → Option (List Name → Bool)

section Builds

variable {ι : Type}

namespace Project

variable (P : Project ι)

def root (i : ι) : List Name := walk P.cwd (ofText (P.target i).genDir)

def marker (i : ι) : List Name := walk P.cwd (ofText (P.target i).dummyDep)

def flags (b : Build ι) : Flags :=
  sboxFlags P.sandboxes (P.target b.target).genDir b.rawCommand

def line (b : Build ι) : Text :=
  ruleLine P.ninja P.sandboxes (P.target b.target).genDir (P.target b.target).dummyDep b.rawCommand

/-- A build. It always leaves a world, but only a successful one is remembered. -/
def build [DecidableEq ι] (w : World ι) (b : Build ι) : Except Empty (World ι) :=
  match runLine b.env P.ninja.sboxCmd b.now (P.line b) w.tree with
  | (t, true) => .ok ⟨t, Function.update w.last b.target (some (made b.env (P.flags b) w.tree))⟩
  | (t, false) => .ok { w with tree := t }

/-- A command that writes to its sandbox only. -/
def Sound (w : World ι) (b : Build ι) : Prop :=
  b.env.cwd = P.cwd ∧ '$' ∉ b.rawCommand ∧
    ∀ sb, Sbox.prepare b.env (P.flags b) w.tree = .ok sb → Sbox.Confined b.env sb

/-- If the module has its file, its files are those of its last successful build. -/
def Complete (w : World ι) (i : ι) : Prop :=
  w.tree.isFile (P.marker i) → ∃ files, w.last i = some files ∧
    ∀ ns, P.root i ++ ns ≠ P.marker i → w.tree.isFile (P.root i ++ ns) = files ns

end Project

variable {P : Project ι} {w w' : World ι} {b : Build ι} {bs : List (Build ι)} {i : ι}

/-! ## One build -/

theorem layout_of_sound (h : P.Sound w b) :
    Layout P.ninja b.env.cwd P.sandboxes (P.target b.target).genDir
      (P.target b.target).dummyDep := by
  rw [h.1]
  exact P.layout b.target

theorem root_of_sound (h : P.Sound w b) (i : ι) :
    walk b.env.cwd (ofText (P.target i).genDir) = P.root i := by
  rw [h.1]
  rfl

theorem marker_of_sound (h : P.Sound w b) (i : ι) :
    walk b.env.cwd (ofText (P.target i).dummyDep) = P.marker i := by
  rw [h.1]
  rfl

/-- Below the root of another module. -/
theorem runLine_other (h : P.Sound w b) (hi : i ≠ b.target) (ns : List Name) :
    (runLine b.env P.ninja.sboxCmd b.now (P.line b) w.tree).1.get (P.root i ++ ns) =
      w.tree.get (P.root i ++ ns) := by
  have hapart : Apart (P.root i) (P.root b.target) := P.apart i b.target hi
  have hsandbox : Apart (P.root i) (walk P.cwd (ofText P.sandboxes)) := (P.layout i).apart
  obtain ⟨n, hn⟩ := (layout_of_sound h).dummyDep
  apply runLine_elsewhere (layout_of_sound h) hn h.2.1 h.2.2
  · rw [root_of_sound h]
    exact hapart.symm.not_prefix_append
  · rw [root_of_sound h]
    exact fun hpre => hapart.1 ((List.prefix_append _ _).trans hpre)
  · rw [h.1]
    exact hsandbox.symm.not_prefix_append
  · rw [h.1]
    exact fun hpre => hsandbox.1 ((List.prefix_append _ _).trans hpre)

variable [DecidableEq ι]

/-- What a build comes to. -/
theorem of_build (h : P.build w b = .ok w') :
    ∃ ok, runLine b.env P.ninja.sboxCmd b.now (P.line b) w.tree = (w'.tree, ok) ∧
      w'.last = if ok then Function.update w.last b.target
        (some (made b.env (P.flags b) w.tree)) else w.last := by
  unfold Project.build at h
  split at h
  · next hline =>
    cases h
    exact ⟨true, hline, rfl⟩
  · next hline =>
    cases h
    exact ⟨false, hline, rfl⟩

/-- The other modules do not notice. -/
theorem complete_other (hsound : P.Sound w b) (h : P.build w b = .ok w') (hi : i ≠ b.target)
    (hw : P.Complete w i) : P.Complete w' i := by
  obtain ⟨ok, hline, hlast⟩ := of_build h
  have hsame (ns : List Name) : w'.tree.isFile (P.root i ++ ns) =
      w.tree.isFile (P.root i ++ ns) := by
    have hget := runLine_other hsound hi ns
    rw [hline] at hget
    rw [isFile, isFile, hget]
  have hkept : w'.last i = w.last i := by
    rw [hlast]
    split
    · exact Function.update_of_ne hi _ _
    · rfl
  obtain ⟨n, hn⟩ : ∃ n, P.marker i = P.root i ++ [n] := (P.layout i).dummyDep
  intro hmarker
  rw [hn, hsame] at hmarker
  obtain ⟨files, hfiles, hall⟩ := hw (by rwa [hn])
  refine ⟨files, hkept.trans hfiles, fun ns hns => ?_⟩
  rw [hsame]
  exact hall ns hns

/-- The module itself has its file from this build, or from one that this build has not touched. -/
theorem complete_self (hsound : P.Sound w b) (h : P.build w b = .ok w')
    (hw : P.Complete w b.target) : P.Complete w' b.target := by
  have hlayout := layout_of_sound hsound
  obtain ⟨ok, hline, hlast⟩ := of_build h
  obtain ⟨n, hn⟩ := hlayout.dummyDep
  have hmarker : P.marker b.target = P.root b.target ++ [n] := by
    rw [← marker_of_sound hsound, ← root_of_sound hsound]
    exact hn
  cases ok with
  | true =>
      obtain ⟨-, hfiles⟩ := runLine_succeeds hlayout hn hsound.2.1 hsound.2.2 hline
      rw [root_of_sound hsound] at hfiles
      intro _
      refine ⟨_, by rw [hlast, if_pos rfl, Function.update_self], fun ns hns => ?_⟩
      apply hfiles
      rintro rfl
      exact hns hmarker.symm
  | false =>
      rw [if_neg (by simp)] at hlast
      intro hthere
      have hfails := runLine_fails hlayout hn hsound.2.1 hsound.2.2 hline
      rw [root_of_sound hsound] at hfails
      rcases hfails with hsame | hnone
      · have hfile (ns : List Name) : w'.tree.isFile (P.root b.target ++ ns) =
            w.tree.isFile (P.root b.target ++ ns) := by
          rw [isFile, isFile, hsame _ (List.prefix_append _ _)]
        rw [hmarker, hfile, ← hmarker] at hthere
        obtain ⟨files, hfiles, hall⟩ := hw hthere
        refine ⟨files, by rw [hlast, hfiles], fun ns hns => ?_⟩
        rw [hfile]
        exact hall ns hns
      · rw [hmarker] at hthere
        exact absurd hthere (hnone [n])

theorem complete_build (hsound : P.Sound w b) (h : P.build w b = .ok w')
    (hw : ∀ i, P.Complete w i) (i : ι) : P.Complete w' i := by
  by_cases hi : i = b.target
  · subst hi
    exact complete_self hsound h (hw _)
  · exact complete_other hsound h hi (hw i)

/-! ## Any number of builds -/

end Builds

/-! ## Two modules -/

def sampleTarget (second : Bool) : Target where
  genDir := (if second then "out/b" else "out/a").toList
  dummyDep := (if second then "out/b/.dummy_dep" else "out/a/.dummy_dep").toList

def sampleProject : Project Bool where
  ninja := sampleNinja
  cwd := Sbox.sampleEnv.cwd
  sandboxes := ".temp".toList
  target := sampleTarget
  layout i := by
    cases i
    · exact ⟨⟨by decide, by decide, by decide, by decide⟩, by decide,
        ⟨Sbox.sampleName ".dummy_dep" (by decide), by decide +kernel⟩,
        by decide +kernel, by decide +kernel⟩
    · exact ⟨⟨by decide, by decide, by decide, by decide⟩, by decide,
        ⟨Sbox.sampleName ".dummy_dep" (by decide), by decide +kernel⟩,
        by decide +kernel, by decide +kernel⟩
  apart i j hij := by
    cases i <;> cases j
    · exact absurd rfl hij
    · exact ⟨by decide +kernel, by decide +kernel⟩
    · exact ⟨by decide +kernel, by decide +kernel⟩
    · exact absurd rfl hij

/-- Each of the modules is built once. -/
def sampleBuilds : List (Build Bool) :=
  [⟨true, "gen 'a' && gen b".toList, Sbox.sampleEnv, 6⟩,
    ⟨false, "gen".toList, Sbox.sampleEnv, 7⟩]

def sampleWorld : World Bool := ⟨FileTree.empty, fun _ => none⟩

theorem sample_sound {w : World Bool} {b : Build Bool} (h : b ∈ sampleBuilds) :
    sampleProject.Sound w b := by
  rw [sampleBuilds, List.mem_cons, List.mem_singleton] at h
  rcases h with rfl | rfl
  · exact ⟨rfl, by decide, fun sb hsb => Sbox.sample_confined hsb rfl⟩
  · exact ⟨rfl, by decide, fun sb hsb => Sbox.sample_confined hsb rfl⟩

end VendorRs.Generator
