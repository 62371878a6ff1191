import VendorRs.Sbox.Basic

/-!
# Moving the outputs

The loop of `run` that takes the outputs out of the sandbox. `Moved` says where the files are after
some of them were moved; one more output can be moved exactly if it names another place than those
(`moveOutput_fresh`, `moveOutput_again`), so the loop succeeds exactly if no two outputs name the
same place (`of_moveOutputs`, `moveOutputs_total`).
-/

namespace VendorRs.Sbox

open Paths FileTree

/-- Where an output is, below the directory it is taken from. -/
def names (filePath : String) : List Name := (relText filePath.toList).names

/-- An output that names a place below the directory it is taken from. -/
def Inside (filePath : String) : Prop :=
  (relText filePath.toList).ups = 0 ∧ names filePath ≠ []

instance (filePath : String) : Decidable (Inside filePath) :=
  inferInstanceAs (Decidable (_ ∧ _))

section Places

variable {cwd : List Name} {base : Path Name} {o : String}

theorem walk_joinPath (h : Inside o) : walk cwd (joinPath base o) = walk cwd base ++ names o := by
  rw [joinPath, joinText_of_ups base h.1, walk_names, names]

theorem walk_dir_joinPath (h : Inside o) :
    walk cwd (dir (joinPath base o)) = walk cwd base ++ (names o).dropLast := by
  have hne : (joinPath base o).names ≠ [] := by
    rw [joinPath, joinText_of_ups base h.1]
    exact List.append_ne_nil_of_right_ne_nil _ h.2
  rw [walk_dir cwd hne, walk_joinPath h, List.dropLast_append_of_ne_nil h.2]

/-- The directory of an output in the sandbox is in the sandbox. -/
theorem prefix_walk_joinDir (cwd : List Name) (base : Path Name) (h : Inside o) :
    walk cwd base <+: walk cwd (joinDir base o) := by
  rw [joinDir, walk_join, descend_of_ups (ups_dirOfText h.1)]
  exact List.prefix_append _ _

end Places

/-! ## Where the files are -/

/-- After `done` was moved from `tmp` to `root`: the moved files are there and not here, the others
are still here, `root` has nothing but the moved files and their directories, and nothing else has
changed. -/
structure Moved (now : String → Nat) (tmp root : List Name) (after : Tree) (done : List String)
    (t : Tree) : Prop where
  file : ∀ o ∈ done, ∃ f, after.get (tmp ++ names o) = some (.file f) ∧
    t.get (root ++ names o) = some (.file { f with mtime := now o })
  gone : ∀ o ∈ done, t.get (tmp ++ names o) = none
  rest : ∀ ns, (∀ o ∈ done, names o ≠ ns) → t.get (tmp ++ ns) = after.get (tmp ++ ns)
  only : ∀ ns, ns ≠ [] → (t.get (root ++ ns)).isSome → ∃ o ∈ done, ns <+: names o
  dir : t.get root = some .dir
  outside : ∀ q, ¬ tmp <+: q → ¬ root <+: q → t.get q = after.get q

section Moving

variable {now : String → Nat} {tmp root : List Name} {after t t' : Tree} {done : List String}
  {o : String}

/-- Before anything is moved. -/
theorem moved_nil (hroot : after.get root = some .dir)
    (hempty : ∀ ns, ns ≠ [] → after.get (root ++ ns) = none) :
    Moved now tmp root after [] after where
  file := by simp
  gone := by simp
  rest _ _ := rfl
  only ns hne h := by
    rw [hempty ns hne] at h
    cases h
  dir := hroot
  outside _ _ _ := rfl

/-- Of two files neither lies below the other. -/
theorem eq_of_prefix_of_isFile {p q : List Name} (hpq : p <+: q) (hp : t.isFile p)
    (hq : (t.get q).isSome) : p = q := by
  by_contra hne
  obtain ⟨f, hf⟩ := isFile_iff.mp hp
  rw [get_of_below (by rw [hf]; simp) hpq hne] at hq
  cases hq

/-- The files at the output root are those that were moved. -/
theorem Moved.files (h : Moved now tmp root after done t) {ns : List Name} :
    t.isFile (root ++ ns) ↔ ∃ o ∈ done, names o = ns := by
  constructor
  · intro hfile
    have hne : ns ≠ [] := by
      rintro rfl
      obtain ⟨f, hf⟩ := isFile_iff.mp hfile
      rw [List.append_nil, h.dir] at hf
      cases hf
    obtain ⟨o, ho, hpre⟩ := h.only ns hne (isSome_of_isFile hfile)
    obtain ⟨f, -, hf⟩ := h.file o ho
    have heq := eq_of_prefix_of_isFile ((List.prefix_append_right_inj root).mpr hpre) hfile
      (by rw [hf]; rfl)
    exact ⟨o, ho, (List.append_cancel_left heq).symm⟩
  · rintro ⟨o, ho, rfl⟩
    obtain ⟨f, -, hf⟩ := h.file o ho
    exact isFile_iff.mpr ⟨_, hf⟩

/-- Where another output is to go there is nothing yet. -/
theorem Moved.free (h : Moved now tmp root after done t) (ho : Inside o)
    (hfile : after.isFile (tmp ++ names o)) (hnew : ∀ o' ∈ done, names o' ≠ names o) :
    t.get (root ++ names o) = none := by
  by_contra hsome
  obtain ⟨o', ho', hprefix⟩ := h.only _ ho.2 (Option.isSome_iff_ne_none.mpr hsome)
  obtain ⟨f, hf, -⟩ := h.file o' ho'
  have heq := eq_of_prefix_of_isFile ((List.prefix_append_right_inj tmp).mpr hprefix) hfile
    (by rw [hf]; rfl)
  exact hnew o' ho' (List.append_cancel_left heq).symm

/-- Nothing on the way to where another output is to go is a file. -/
theorem Moved.not_isFile_of_prefix (h : Moved now tmp root after done t)
    (ho : Inside o) (hfile : after.isFile (tmp ++ names o)) {q : List Name}
    (hq : q <+: root ++ (names o).dropLast) : ¬ t.isFile q := by
  intro hqfile
  rcases List.prefix_or_prefix_of_prefix hq (List.prefix_append root _) with hroot | ⟨ns, rfl⟩
  · obtain ⟨f, hf⟩ := isFile_iff.mp hqfile
    have := eq_of_prefix_of_isFile hroot hqfile (by rw [h.dir]; rfl)
    rw [this, h.dir] at hf
    cases hf
  · have hns := (List.prefix_append_right_inj root).mp hq
    obtain ⟨f, hf⟩ := isFile_iff.mp hqfile
    by_cases hne : ns = []
    · rw [hne, List.append_nil, h.dir] at hf
      cases hf
    · obtain ⟨o', ho', hprefix⟩ := h.only ns hne (by rw [hf]; rfl)
      obtain ⟨g, hg, hg'⟩ := h.file o' ho'
      have hsame := List.append_cancel_left (eq_of_prefix_of_isFile
        ((List.prefix_append_right_inj root).mpr hprefix) hqfile (by rw [hg']; rfl))
      have hbelow : names o' <+: names o := hsame ▸ hns.trans (List.dropLast_prefix _)
      have heq := List.append_cancel_left (eq_of_prefix_of_isFile (t := after)
        ((List.prefix_append_right_inj tmp).mpr hbelow) (isFile_iff.mpr ⟨g, hg⟩)
        (by obtain ⟨d, hd⟩ := isFile_iff.mp hfile; rw [hd]; rfl))
      have hlen := hns.length_le
      rw [hsame, heq, List.length_dropLast] at hlen
      have := List.length_pos_of_ne_nil ho.2
      omega

/-- What moving one output does at each position. -/
structure Relocated (now : String → Nat) (tmp root : List Name) (o : String) (t t' : Tree) :
    Prop where
  sandbox : ∀ ns, t'.get (tmp ++ ns) = if names o <+: ns then none else t.get (tmp ++ ns)
  placed : ∀ f, t.get (tmp ++ names o) = some (.file f) →
    t'.get (root ++ names o) = some (.file { f with mtime := now o })
  other : ∀ ns, ¬ names o <+: ns →
    t'.get (root ++ ns) = if ns <+: (names o).dropLast then some .dir else t.get (root ++ ns)
  outside : ∀ q, ¬ tmp <+: q → ¬ root <+: q → t'.get q = t.get q

variable {env : Env} {tempDir outputRoot : Path Name}

theorem moveOutput_relocated (hapart : Apart (walk env.cwd tempDir) (walk env.cwd outputRoot))
    (ho : Inside o) (hdir : t.get (walk env.cwd outputRoot) = some .dir)
    (hmove : moveOutput env tempDir outputRoot o t = .ok t') :
    Relocated env.now (walk env.cwd tempDir) (walk env.cwd outputRoot) o t t' := by
  unfold moveOutput at hmove
  simp only [walk_joinPath ho, walk_dir_joinPath ho] at hmove
  generalize walk env.cwd tempDir = tmp at *
  generalize walk env.cwd outputRoot = root at *
  obtain ⟨t₁, h₁, hmove₁⟩ := call_bind_eq_ok.mp hmove
  obtain ⟨t₂, h₂, hmove₂⟩ := call_bind_eq_ok.mp hmove₁
  have h₃ := call_eq_ok.mp hmove₂
  have hsand₁ (ns) : t₁.get (tmp ++ ns) = t.get (tmp ++ ns) := by
    rw [get_mkdirAll h₁, if_neg hapart.not_prefix]
  constructor
  · intro ns
    rw [get_rename h₃, if_neg hapart.symm.not_prefix]
    simp only [List.prefix_append_right_inj]
    split
    · rfl
    · next hns =>
      rw [get_update h₂, if_neg, hsand₁]
      intro heq
      exact hns (List.append_cancel_left heq ▸ List.prefix_rfl)
  · intro f hf
    rw [get_rename h₃, if_pos List.prefix_rfl, List.drop_length, List.append_nil, get_update h₂,
      if_pos rfl, hsand₁, hf]
    rfl
  · intro ns hns
    rw [get_rename h₃, if_neg, if_neg hapart.not_prefix, get_update h₂, if_neg hapart.symm.ne,
      get_mkdirAll h₁]
    · simp only [List.prefix_append_right_inj]
    · rwa [List.prefix_append_right_inj]
  · intro q htmp hroot
    have hne : q ≠ tmp ++ names o := by
      rintro rfl
      exact htmp (List.prefix_append _ _)
    rw [get_rename h₃, if_neg fun hq => hroot ((List.prefix_append _ _).trans hq),
      if_neg fun hq => htmp ((List.prefix_append _ _).trans hq), get_update h₂, if_neg hne,
      get_mkdirAll_below hdir h₁ hroot]

/-- What one turn of the loop leaves, where it does not fail. -/
theorem Moved.step (h : Moved now tmp root after done t) (ho : Inside o)
    (hfile : after.isFile (tmp ++ names o)) (hnew : ∀ o' ∈ done, names o' ≠ names o)
    (hmove : Relocated now tmp root o t t') : Moved now tmp root after (done ++ [o]) t' := by
  obtain ⟨f, hf⟩ := isFile_iff.mp hfile
  have hplaced := hmove.placed f (by rw [h.rest _ hnew, hf])
  -- of the output and another file neither lies below the other
  have hsame {ns : List Name} (hns : after.isFile (tmp ++ ns))
      (hpre : names o <+: ns ∨ ns <+: names o) : names o = ns := by
    rcases hpre with hpre | hpre
    · exact List.append_cancel_left (eq_of_prefix_of_isFile
        ((List.prefix_append_right_inj tmp).mpr hpre) hfile (isSome_of_isFile hns))
    · exact (List.append_cancel_left (eq_of_prefix_of_isFile
        ((List.prefix_append_right_inj tmp).mpr hpre) hns (isSome_of_isFile hfile))).symm
  constructor
  case file =>
    intro o' ho'
    rcases List.mem_append.mp ho' with ho' | ho'
    · obtain ⟨g, hg, hg'⟩ := h.file o' ho'
      have hgfile : after.isFile (tmp ++ names o') := isFile_iff.mpr ⟨g, hg⟩
      have hne : names o ≠ names o' := (hnew o' ho').symm
      refine ⟨g, hg, ?_⟩
      rw [hmove.other _ fun hpre => hne (hsame hgfile (.inl hpre)), if_neg, hg']
      intro hpre
      exact hne (hsame hgfile (.inr (hpre.trans (List.dropLast_prefix _))))
    · rw [List.mem_singleton.mp ho']
      exact ⟨f, hf, hplaced⟩
  case gone =>
    intro o' ho'
    rw [hmove.sandbox]
    split
    · rfl
    · next hpre =>
      rcases List.mem_append.mp ho' with ho' | ho'
      · exact h.gone o' ho'
      · rw [List.mem_singleton.mp ho'] at hpre
        exact absurd List.prefix_rfl hpre
  case rest =>
    intro ns hns
    rw [hmove.sandbox]
    split
    · next hpre =>
      rw [get_of_below (by rw [hf]; simp) ((List.prefix_append_right_inj tmp).mpr hpre)]
      intro heq
      exact hns o (by simp) (List.append_cancel_left heq)
    · exact h.rest ns fun o' ho' => hns o' (List.mem_append_left _ ho')
  case only =>
    intro ns hne hsome
    by_cases hpre : names o <+: ns
    · have heq : root ++ names o = root ++ ns :=
        eq_of_prefix_of_isFile ((List.prefix_append_right_inj root).mpr hpre)
          (isFile_iff.mpr ⟨_, hplaced⟩) hsome
      exact ⟨o, by simp, by rw [List.append_cancel_left heq]⟩
    · rw [hmove.other ns hpre] at hsome
      split at hsome
      · next hup => exact ⟨o, by simp, hup.trans (List.dropLast_prefix _)⟩
      · obtain ⟨o', ho', hns⟩ := h.only ns hne hsome
        exact ⟨o', List.mem_append_left _ ho', hns⟩
  case dir =>
    have hdir := hmove.other [] fun hpre => ho.2 (List.prefix_nil.mp hpre)
    rwa [if_pos List.nil_prefix, List.append_nil] at hdir
  case outside =>
    intro q htmp hroot
    rw [hmove.outside q htmp hroot]
    exact h.outside q htmp hroot

/-- An output that names another place than those moved so far is moved. -/
theorem moveOutput_fresh (hapart : Apart (walk env.cwd tempDir) (walk env.cwd outputRoot))
    (h : Moved env.now (walk env.cwd tempDir) (walk env.cwd outputRoot) after done t)
    (ho : Inside o) (hfile : after.isFile (walk env.cwd tempDir ++ names o))
    (hnew : ∀ o' ∈ done, names o' ≠ names o) :
    ∃ t', moveOutput env tempDir outputRoot o t = .ok t' := by
  unfold moveOutput
  simp only [walk_joinPath ho, walk_dir_joinPath ho]
  generalize walk env.cwd tempDir = tmp at *
  generalize walk env.cwd outputRoot = root at *
  obtain ⟨f, hf⟩ := isFile_iff.mp hfile
  obtain ⟨t₁, h₁⟩ := mkdirAll_eq_ok_iff.mpr fun q hq => h.not_isFile_of_prefix ho hfile hq
  have hsand₁ : t₁.get (tmp ++ names o) = some (.file f) := by
    rw [get_mkdirAll h₁, if_neg hapart.not_prefix, h.rest _ hnew, hf]
  obtain ⟨t₂, h₂⟩ := update_file (f := fun file : File => { file with mtime := env.now o })
    (by rw [hsand₁]; rfl : (t₁.get (tmp ++ names o)).isSome)
  have hroot₂ (ns) : t₂.get (root ++ ns) = t₁.get (root ++ ns) := by
    rw [get_update h₂, if_neg hapart.symm.ne]
  have hsand₂ : t₂.get (tmp ++ names o) = some (.file { f with mtime := env.now o }) := by
    rw [get_update h₂, if_pos rfl, hsand₁]
    rfl
  have hne : root ++ names o ≠ [] := List.append_ne_nil_of_right_ne_nil _ ho.2
  have hparent : t₂.get (root ++ names o).dropLast = some .dir := by
    rw [List.dropLast_append_of_ne_nil ho.2, hroot₂, get_mkdirAll h₁, if_pos List.prefix_rfl]
  have hfree : t₂.get (root ++ names o) ≠ some .dir := by
    rw [hroot₂, get_mkdirAll h₁, if_neg, h.free ho hfile hnew]
    · simp
    · intro hpre
      have hlen := ((List.prefix_append_right_inj root).mp hpre).length_le
      have := List.length_pos_of_ne_nil ho.2
      rw [List.length_dropLast] at hlen
      omega
  obtain ⟨t₃, h₃⟩ := rename_file hsand₂ hne hparent hfree
  exact ⟨t₃, call_bind_eq_ok.mpr ⟨t₁, h₁, call_bind_eq_ok.mpr ⟨t₂, h₂, call_eq_ok.mpr h₃⟩⟩⟩

/-- An output that names a place that was moved already is not there any more. -/
theorem moveOutput_again (hapart : Apart (walk env.cwd tempDir) (walk env.cwd outputRoot))
    (h : Moved env.now (walk env.cwd tempDir) (walk env.cwd outputRoot) after done t)
    (ho : Inside o) (hold : ∃ o' ∈ done, names o' = names o) :
    ¬ ∃ t', moveOutput env tempDir outputRoot o t = .ok t' := by
  rintro ⟨t', hmove⟩
  unfold moveOutput at hmove
  simp only [walk_joinPath ho, walk_dir_joinPath ho] at hmove
  obtain ⟨t₁, h₁, hmove₁⟩ := call_bind_eq_ok.mp hmove
  obtain ⟨t₂, h₂, -⟩ := call_bind_eq_ok.mp hmove₁
  obtain ⟨o', ho', hsame⟩ := hold
  have hthere := of_update_eq_ok h₂
  rw [get_mkdirAll h₁, if_neg hapart.not_prefix, ← hsame, h.gone o' ho'] at hthere
  cases hthere

/-! ## The whole loop -/

/-- Where the loop succeeds, it has moved its outputs, and no two of them name the same place. -/
theorem of_moveOutputs {rest : List String}
    (hapart : Apart (walk env.cwd tempDir) (walk env.cwd outputRoot))
    (h : Moved env.now (walk env.cwd tempDir) (walk env.cwd outputRoot) after done t)
    (hrest : ∀ o ∈ rest, Inside o ∧ after.isFile (walk env.cwd tempDir ++ names o))
    (hmove : moveOutputs env tempDir outputRoot rest t = .ok t') :
    Moved env.now (walk env.cwd tempDir) (walk env.cwd outputRoot) after (done ++ rest) t' ∧
      (rest.map names).Nodup ∧ ∀ o ∈ rest, ∀ o' ∈ done, names o' ≠ names o := by
  induction rest generalizing done t with
  | nil =>
      cases hmove
      rw [List.append_nil]
      exact ⟨h, List.nodup_nil, by simp⟩
  | cons o rest ih =>
      obtain ⟨⟨ho, hfile⟩, hrest⟩ := List.forall_mem_cons.mp hrest
      obtain ⟨t₁, h₁, hmove⟩ := bind_eq_ok.mp hmove
      have hnew : ∀ o' ∈ done, names o' ≠ names o := by
        intro o' ho' hsame
        exact moveOutput_again hapart h ho ⟨o', ho', hsame⟩ ⟨t₁, h₁⟩
      have hstep := h.step ho hfile hnew (moveOutput_relocated hapart ho h.dir h₁)
      obtain ⟨hmoved, hnodup, hapart'⟩ := ih hstep hrest hmove
      rw [List.append_assoc] at hmoved
      refine ⟨hmoved, ?_, ?_⟩
      · rw [List.map_cons, List.nodup_cons]
        refine ⟨?_, hnodup⟩
        intro hmem
        obtain ⟨o₂, ho₂, hsame⟩ := List.mem_map.mp hmem
        exact hapart' o₂ ho₂ o (by simp) hsame.symm
      · intro o₂ ho₂ o' ho'
        rcases List.mem_cons.mp ho₂ with rfl | ho₂
        · exact hnew o' ho'
        · exact hapart' o₂ ho₂ o' (List.mem_append_left _ ho')

/-- Outputs that name different places are all moved. -/
theorem moveOutputs_total {rest : List String}
    (hapart : Apart (walk env.cwd tempDir) (walk env.cwd outputRoot))
    (h : Moved env.now (walk env.cwd tempDir) (walk env.cwd outputRoot) after done t)
    (hrest : ∀ o ∈ rest, Inside o ∧ after.isFile (walk env.cwd tempDir ++ names o))
    (hnodup : ((done ++ rest).map names).Nodup) :
    ∃ t', moveOutputs env tempDir outputRoot rest t = .ok t' := by
  induction rest generalizing done t with
  | nil => exact ⟨t, rfl⟩
  | cons o rest ih =>
      obtain ⟨⟨ho, hfile⟩, hrest⟩ := List.forall_mem_cons.mp hrest
      have hnew : ∀ o' ∈ done, names o' ≠ names o := by
        intro o' ho'
        rw [List.map_append, List.map_cons] at hnodup
        exact (List.nodup_append.mp hnodup).2.2 _ (List.mem_map_of_mem ho') _ (by simp)
      obtain ⟨t₁, h₁⟩ := moveOutput_fresh hapart h ho hfile hnew
      have hstep := h.step ho hfile hnew (moveOutput_relocated hapart ho h.dir h₁)
      obtain ⟨t₂, h₂⟩ := ih hstep hrest (by simpa using hnodup)
      exact ⟨t₂, bind_eq_ok.mpr ⟨t₁, h₁, h₂⟩⟩

/-! ## Whatever happens -/

/-- Outside of the sandbox and the output root a move changes nothing, even one that fails. -/
theorem left_moveOutput (hapart : Apart (walk env.cwd tempDir) (walk env.cwd outputRoot))
    (ho : Inside o) (hdir : t.get (walk env.cwd outputRoot) = some .dir) {q : List Name}
    (htmp : ¬ walk env.cwd tempDir <+: q) (hroot : ¬ walk env.cwd outputRoot <+: q) :
    (left (moveOutput env tempDir outputRoot o t)).get q = t.get q := by
  cases hmove : moveOutput env tempDir outputRoot o t with
  | ok t' => exact (moveOutput_relocated hapart ho hdir hmove).outside q htmp hroot
  | error e =>
      obtain ⟨f, t'⟩ := e
      unfold moveOutput at hmove
      simp only [walk_joinPath ho, walk_dir_joinPath ho] at hmove
      rcases call_bind_eq_error.mp hmove with ⟨_, -, heq⟩ | ⟨t₁, h₁, hmove₁⟩
      · cases heq
        rfl
      · have hsame₁ : t₁.get q = t.get q := get_mkdirAll_below hdir h₁ hroot
        rcases call_bind_eq_error.mp hmove₁ with ⟨_, -, heq⟩ | ⟨t₂, h₂, hmove₂⟩
        · cases heq
          exact hsame₁
        · have hne : q ≠ walk env.cwd tempDir ++ names o := by
            rintro rfl
            exact htmp (List.prefix_append _ _)
          obtain ⟨_, -, heq⟩ := call_eq_error.mp hmove₂
          cases heq
          rw [← hsame₁]
          exact (get_update h₂).trans (if_neg hne)

theorem left_moveOutputs {os : List String}
    (hapart : Apart (walk env.cwd tempDir) (walk env.cwd outputRoot))
    (hos : ∀ o ∈ os, Inside o) (hdir : t.get (walk env.cwd outputRoot) = some .dir) {q : List Name}
    (htmp : ¬ walk env.cwd tempDir <+: q) (hroot : ¬ walk env.cwd outputRoot <+: q) :
    (left (moveOutputs env tempDir outputRoot os t)).get q = t.get q := by
  induction os generalizing t with
  | nil => rfl
  | cons o os ih =>
      obtain ⟨ho, hos⟩ := List.forall_mem_cons.mp hos
      have hfirst := left_moveOutput hapart ho hdir htmp hroot
      rw [moveOutputs]
      cases hmove : moveOutput env tempDir outputRoot o t with
      | error e =>
          rw [hmove] at hfirst
          exact hfirst
      | ok t₁ =>
          rw [hmove] at hfirst
          have hdir₁ := (moveOutput_relocated hapart ho hdir hmove).other [] fun hpre =>
            ho.2 (List.prefix_nil.mp hpre)
          rw [if_pos List.nil_prefix, List.append_nil] at hdir₁
          exact (ih hos hdir₁).trans hfirst

end Moving

end VendorRs.Sbox
