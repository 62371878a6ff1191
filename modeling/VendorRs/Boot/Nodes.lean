import VendorRs.Boot.Receiver

/-!
# The nodes between two boots

The settings screen writes a node as soon as the user changes a preference, and a boot writes the
nodes from the preferences. The two should come to the same. They do for the keys and the display
without flicker; but to go from one gamut to the other switches the new one on and leaves the old
one on as well, until the next boot or until the user chooses neither (`nodes_follow_iff`).
-/

namespace VendorRs.Boot

open Java Runs

variable {s s' : State} {node value newValue : String} {e : Event} {files : Utils.Files}

/-- The values of `display_mode` that switch a node on, each with its node. -/
def gamuts : List (String × String) :=
  [("srgb", displayModeSRGBNode), ("dcip3", displayModeDCIP3Node)]

def IsGamut (value : String) : Prop := value ∈ gamuts.map Prod.fst

instance : Decidable (IsGamut value) := inferInstanceAs (Decidable (value ∈ gamuts.map Prod.fst))

/-- What a node should say. -/
def State.isOn (s : State) (node : String) : Bool :=
  if node = keySwapNode then s.buttonSwap.getD false
  else if node = flickerFreeNode then s.flickerFree.getD false
  else if node = displayModeSRGBNode then s.displayMode = some "srgb"
  else if node = displayModeDCIP3Node then s.displayMode = some "dcip3"
  else false

/-- A node that is there says what it should. -/
def State.Follows (s : State) (node : String) : Prop :=
  ∀ x ∈ s.files node, x = if s.isOn node then "1" else "0"

def Follows (s : State) : Prop := ∀ node ∈ nodes, s.Follows node

/-- The step leaves all nodes as they should be. -/
def NodesFollow (s : State) (e : Event) : Prop := ∀ s', step s e = .ok s' → Follows s'

/-- From one gamut to the other, on a display that has a node for the one left behind. -/
def SwitchesGamut (s : State) : Event → Prop
  | .displayModeChanged newValue =>
      IsGamut newValue ∧ ∃ gamut ∈ gamuts, gamut.1 ≠ newValue ∧ s.displayMode = some gamut.1 ∧
        (s.files gamut.2).isSome
  | _ => False

/-! ## What is written -/

/-- The nodes are four different ones. -/
theorem node_ne :
    keySwapNode ≠ flickerFreeNode ∧ keySwapNode ≠ displayModeSRGBNode ∧
      keySwapNode ≠ displayModeDCIP3Node ∧ flickerFreeNode ≠ displayModeSRGBNode ∧
      flickerFreeNode ≠ displayModeDCIP3Node ∧ displayModeSRGBNode ≠ displayModeDCIP3Node := by
  decide

theorem mem_nodes :
    node ∈ nodes ↔
      node = keySwapNode ∨ node = flickerFreeNode ∨ ∃ value, (value, node) ∈ gamuts := by
  simp only [nodes, gamuts, List.mem_cons, List.not_mem_nil, or_false, Prod.mk.injEq, exists_or,
    exists_and_right, exists_eq, true_and]

theorem isGamut_iff : IsGamut value ↔ value = "srgb" ∨ value = "dcip3" := by
  simp only [IsGamut, gamuts, List.map_cons, List.map_nil, List.mem_cons, List.not_mem_nil,
    or_false]

theorem isOn_gamut (hnode : (value, node) ∈ gamuts) :
    s.isOn node = decide (s.displayMode = some value) := by
  obtain ⟨-, h₂, h₃, h₄, h₅, h₆⟩ := node_ne
  rcases List.mem_cons.mp hnode with h | h
  · cases h
    simp [State.isOn, h₂.symm, h₄.symm]
  · cases List.mem_singleton.mp h
    simp [State.isOn, h₃.symm, h₅.symm, h₆.symm]

theorem writeToFile_self (path data : String) :
    Utils.writeToFile files path data path = (files path).map fun _ => data := if_pos rfl

theorem ite_writeToFile (c : Prop) [Decidable c] (path data : String) :
    (if c then Utils.writeToFile files path data else files) node =
      if c ∧ node = path then (files node).map fun _ => data else files node := by
  by_cases hc : c
  · simp only [hc, if_true, true_and, Utils.writeToFile]
  · simp only [hc, if_false, false_and]

/-- A boot writes the nodes that should be on. -/
theorem writeNodes_eq (hnode : node ∈ nodes) :
    writeNodes s node = if s.isOn node then (s.files node).map fun _ => "1" else s.files node := by
  obtain ⟨h₁, h₂, h₃, h₄, h₅, h₆⟩ := node_ne
  have hmode (value : String) (hvalue : value ≠ "normal") :
      s.displayMode.getD "normal" = value ↔ s.displayMode = some value := by
    cases s.displayMode with
    | none => simpa using hvalue.symm
    | some mode => simp
  simp only [writeNodes, hmode "srgb" (by decide), hmode "dcip3" (by decide)]
  -- the keys, then the flicker, then the display
  generalize hkey : (if s.buttonSwap.getD false = true then
    Utils.writeToFile s.files keySwapNode "1" else s.files) = files₁
  generalize hflicker : (if s.flickerFree.getD false = true then
    Utils.writeToFile files₁ flickerFreeNode "1" else files₁) = files₂
  have hfiles₁ : files₁ node = _ := hkey ▸ ite_writeToFile (s.buttonSwap.getD false = true) _ _
  have hfiles₂ : files₂ node = _ := hflicker ▸ ite_writeToFile (s.flickerFree.getD false = true) _ _
  rw [ite_apply, ite_apply, Utils.writeToFile, Utils.writeToFile, hfiles₂, hfiles₁]
  rcases mem_nodes.mp hnode with rfl | rfl | ⟨value, hmem⟩
  · simp [State.isOn, h₁, h₂, h₃]
  · simp [State.isOn, h₁.symm, h₄, h₅]
  · rw [isOn_gamut hmem]
    rcases List.mem_cons.mp hmem with h | h
    · cases h
      simp [h₂.symm, h₄.symm, h₆]
    · cases List.mem_singleton.mp h
      cases hdisplay : s.displayMode with
      | none => simp [h₃.symm, h₅.symm]
      | some mode =>
          by_cases hsrgb : mode = "srgb"
          · simp [h₃.symm, h₅.symm, h₆.symm, hsrgb]
          · simp [h₃.symm, h₅.symm, hsrgb]

/-- `display_mode` is about the nodes of the gamuts only. -/
theorem displayModeChanged_gamut (hnode : (value, node) ∈ gamuts) :
    displayModeChanged files newValue node =
      if newValue = value then (files node).map fun _ => "1"
      else if IsGamut newValue then files node
      else (files node).map fun _ => "0" := by
  obtain ⟨-, -, -, -, -, h₆⟩ := node_ne
  simp only [displayModeChanged, isGamut_iff]
  rcases List.mem_cons.mp hnode with h | h
  · cases h
    split_ifs <;> simp_all [Utils.writeToFile_of_ne, writeToFile_self]
  · cases List.mem_singleton.mp h
    split_ifs <;> simp_all [Utils.writeToFile_of_ne, writeToFile_self, Ne.symm]

/-- The rest of the nodes are not those of the display. -/
theorem displayModeChanged_other (hnode : node = keySwapNode ∨ node = flickerFreeNode) :
    displayModeChanged files newValue node = files node := by
  obtain ⟨-, h₂, h₃, h₄, h₅, -⟩ := node_ne
  unfold displayModeChanged
  rcases hnode with rfl | rfl
  · split_ifs <;> simp [Utils.writeToFile_of_ne, h₂, h₃]
  · split_ifs <;> simp [Utils.writeToFile_of_ne, h₄, h₅]

theorem buttonSwapChanged_eq (files : Utils.Files) (newValue : Bool) :
    buttonSwapChanged files newValue =
      Utils.writeToFile files keySwapNode (if newValue then "1" else "0") := by
  cases newValue <;> rfl

theorem flickerFreeChanged_eq (files : Utils.Files) (newValue : Bool) :
    flickerFreeChanged files newValue =
      Utils.writeToFile files flickerFreeNode (if newValue then "1" else "0") := by
  cases newValue <;> rfl

/-! ## Steps -/

/-- What is written to a node decides whether it follows. -/
theorem follows_of_written {data : String} (hfiles : s.files node = (files node).map fun _ => data)
    (hdata : data = if s.isOn node then "1" else "0") : s.Follows node := by
  intro x hx
  rw [hfiles, Option.mem_def, Option.map_eq_some_iff] at hx
  obtain ⟨-, -, rfl⟩ := hx
  exact hdata

/-- Nothing happens to the node. -/
theorem State.Follows.of_same (h : s.Follows node) (hfiles : s'.files node = s.files node)
    (hon : s'.isOn node = s.isOn node) : s'.Follows node := by
  intro x hx
  rw [hon]
  exact h x (hfiles ▸ hx)

theorem isOn_onReceive (s : State) (node : String) : (onReceive s).isOn node = s.isOn node := by
  rw [onReceive_eq]
  rfl

/-- A boot brings all nodes in line, since they are off before it. -/
theorem follows_onReceive (hoff : ∀ node ∈ nodes, ∀ x ∈ s.files node, x = "0") :
    Follows (onReceive s) := by
  intro node hnode
  have hfiles : (onReceive s).files node = writeNodes s node := by rw [onReceive_eq]
  rw [writeNodes_eq hnode] at hfiles
  by_cases hon : s.isOn node = true
  · rw [if_pos hon] at hfiles
    apply follows_of_written hfiles
    rw [isOn_onReceive, if_pos hon]
  · rw [if_neg hon] at hfiles
    intro x hx
    rw [isOn_onReceive, if_neg hon]
    exact hoff node hnode x (hfiles ▸ hx)

/-- The nodes of the gamuts, when the user chooses a display mode. -/
theorem gamut_follows_iff (hnode : (value, node) ∈ gamuts) (h : s.Follows node)
    (hs' : step s (.displayModeChanged newValue) = .ok s') :
    s'.Follows node ↔
      ¬ (IsGamut newValue ∧ value ≠ newValue ∧ s.displayMode = some value ∧
        (s.files node).isSome) := by
  have hfiles : s'.files node = displayModeChanged s.files newValue node := by
    cases hs'
    rfl
  have hon : s'.isOn node = decide (newValue = value) := by
    cases hs'
    rw [isOn_gamut hnode]
    simp
  rw [displayModeChanged_gamut hnode] at hfiles
  by_cases hvalue : newValue = value
  · rw [if_pos hvalue] at hfiles
    refine ⟨fun _ hswitch => hswitch.2.1 hvalue.symm, fun _ => follows_of_written hfiles ?_⟩
    simp [hon, hvalue]
  · rw [if_neg hvalue] at hfiles
    by_cases hgamut : IsGamut newValue
    · -- the node stays as it is, and should be off now
      rw [if_pos hgamut] at hfiles
      rw [State.Follows, isOn_gamut hnode] at h
      rw [State.Follows, hon, hfiles]
      constructor
      · rintro hzero ⟨-, -, hmode, hsome⟩
        obtain ⟨x, hx⟩ := Option.isSome_iff_exists.mp hsome
        have hone := h x hx
        rw [hzero x hx] at hone
        simp [hmode, hvalue] at hone
      · intro hnot x hx
        have hmode : s.displayMode ≠ some value := by
          intro hmode
          exact hnot ⟨hgamut, Ne.symm hvalue, hmode, Option.isSome_iff_exists.mpr ⟨x, hx⟩⟩
        simpa [hmode, hvalue] using h x hx
    · rw [if_neg hgamut] at hfiles
      refine ⟨fun _ hswitch => hgamut hswitch.1, fun _ => follows_of_written hfiles ?_⟩
      simp [hon, hvalue]

/-- A node that no preference is about stays as it is. -/
theorem follows_displayModeChanged (hnode : node = keySwapNode ∨ node = flickerFreeNode)
    (h : s.Follows node) (hs' : step s (.displayModeChanged newValue) = .ok s') :
    s'.Follows node := by
  cases hs'
  obtain ⟨h₁, -⟩ := node_ne
  refine h.of_same (displayModeChanged_other hnode) ?_
  rcases hnode with rfl | rfl
  · simp [State.isOn]
  · simp [State.isOn, h₁.symm]

/-- A preference with a node of its own. -/
theorem follows_own {path data : String} (hnodes : ∀ node ∈ nodes, node ≠ path →
      s'.isOn node = s.isOn node) (hfiles : s'.files = Utils.writeToFile s.files path data)
    (hdata : data = if s'.isOn path then "1" else "0") (h : Follows s) : Follows s' := by
  intro node hnode
  by_cases hpath : node = path
  · subst hpath
    exact follows_of_written (by rw [hfiles, writeToFile_self]) hdata
  · refine (h node hnode).of_same ?_ (hnodes node hnode hpath)
    rw [hfiles, Utils.writeToFile_of_ne hpath]

theorem nodesFollow_iff (h : Follows s) (e : Event) : NodesFollow s e ↔ ¬ SwitchesGamut s e := by
  have hsame {s₁ : State} (hs₁ : step s e = .ok s₁) (hfiles : s₁.files = s.files)
      (hon : ∀ node, s₁.isOn node = s.isOn node) : NodesFollow s e := by
    intro s' hs'
    obtain rfl : s₁ = s' := Except.ok.inj (hs₁.symm.trans hs')
    intro node hnode
    exact (h node hnode).of_same (congrFun hfiles node) (hon node)
  cases e with
  | displayModeChanged newValue =>
      obtain ⟨s', hs'⟩ : ∃ s', step s (.displayModeChanged newValue) = .ok s' := ⟨_, rfl⟩
      have hnodes : NodesFollow s (.displayModeChanged newValue) ↔ Follows s' := by
        constructor
        · intro hfollow
          exact hfollow s' hs'
        · rintro hfollow s'' hs''
          rwa [← Except.ok.inj (hs'.symm.trans hs'')]
      rw [hnodes]
      constructor
      · rintro hfollow ⟨hgamut, gamut, hmem, hne, hmode, hsome⟩
        have hnode : gamut.2 ∈ nodes := mem_nodes.mpr (.inr (.inr ⟨gamut.1, hmem⟩))
        exact (gamut_follows_iff hmem (h gamut.2 hnode) hs').mp (hfollow gamut.2 hnode)
          ⟨hgamut, hne, hmode, hsome⟩
      · intro hnot node hnode
        rcases mem_nodes.mp hnode with hkey | hflicker | ⟨value, hmem⟩
        · exact follows_displayModeChanged (.inl hkey) (h node hnode) hs'
        · exact follows_displayModeChanged (.inr hflicker) (h node hnode) hs'
        · apply (gamut_follows_iff hmem (h node hnode) hs').mpr
          rintro ⟨hgamut, hne, hmode, hsome⟩
          exact hnot ⟨hgamut, (value, node), hmem, hne, hmode, hsome⟩
  | booted drivers =>
      refine iff_of_true ?_ not_false
      intro s' hs'
      cases hs'
      exact follows_onReceive drivers.off
  | buttonSwapChanged newValue =>
      refine iff_of_true ?_ not_false
      intro s' hs'
      cases hs'
      refine follows_own ?_ (buttonSwapChanged_eq s.files newValue) (by simp [State.isOn]) h
      intro node _ hne
      simp [State.isOn, hne]
  | flickerFreeChanged newValue =>
      refine iff_of_true ?_ not_false
      intro s' hs'
      cases hs'
      obtain ⟨h₁, -⟩ := node_ne
      refine follows_own ?_ (flickerFreeChanged_eq s.files newValue)
        (by simp [State.isOn, h₁.symm]) h
      intro node _ hne
      simp [State.isOn, hne]
  | servicesChosen | ledManagerExtraEnabledChanged | ledAccessChanged | installed | uninstalled
  | userGrants | userRevokes =>
      exact iff_of_true (hsame rfl rfl fun _ => rfl) not_false

/-- **The nodes say what the preferences say, after every step of a run, exactly when the user never
goes from one gamut straight to the other.** -/
theorem nodes_follow_iff (d : Device) (es : List Event) :
    EveryStep step NodesFollow (.initial d) es ↔
      EveryStep step (fun s e => ¬ SwitchesGamut s e) (.initial d) es := by
  refine everyStep_iff (P := Follows) (B := fun _ _ => True) ?_ ?_ ?_ everyStep_true
  · intro s e s' h _ hnot hs'
    exact (nodesFollow_iff h e).mpr hnot s' hs'
  · intro s e h _
    exact nodesFollow_iff h e
  · -- before the first boot all is off, and should be
    intro node hnode x hx
    rw [d.drivers.off node hnode x hx]
    simp [State.isOn, State.initial]

end VendorRs.Boot
