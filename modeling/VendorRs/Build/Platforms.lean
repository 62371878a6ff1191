import VendorRs.Build.Utils

/-!
# What a makefile asks about the device

The questions about the board platform and the version of the platform, on top of the matching of
words. The name of a platform may be given as a variable, and then it matters that `make` keeps the
blanks between a value and a comment: `is-board-platform` compares such a name as it is, and says no
(`commented_names_never_match`).
-/

namespace VendorRs.Build

open Make

/-! ## The lists -/

/-- `qcom_boards.mk`, as far as it is read before the questions are asked. The comments behind the
names leave a blank. -/
def qcomBoards : StateM Vars Unit := do
  assign "MSMNILE" "msmnile ".toList
  assign "MSMSTEPPE" "sm6150".toList
  assign "TRINKET" "trinket ".toList
  ["msm7x27a", "msm7x30", "msm8660", "msm8960", "msm8226", "msm8610", "msm8974", "apq8084",
    "msm8992", "msm8994", "msm8909", "msm8916", "msm8952", "msm8937", "msm8953", "msm8996",
    "msm8998", "sdm660", "sdm710", "sdm845"].forM
      fun board => append "QCOM_BOARD_PLATFORMS" board.toList
  append "QCOM_BOARD_PLATFORMS" (← lookup "TRINKET")
  append "QCOM_BOARD_PLATFORMS" (← lookup "MSMSTEPPE")
  append "QCOM_BOARD_PLATFORMS" (← lookup "MSMNILE")
  assign "MSM7K_BOARD_PLATFORMS" "msm7x30".toList
  ["msm7x27", "msm7x27a", "msm7k"].forM fun board => append "MSM7K_BOARD_PLATFORMS" board.toList
  assign "QSD8K_BOARD_PLATFORMS" "qsd8k".toList

/-- The versions that go by a name. -/
def sdkVersions : StateM Vars Unit := do
  assign "CUPCAKE_SDK_VERSIONS" "3".toList
  assign "DONUT_SDK_VERSIONS" "4".toList
  assign "ECLAIR_SDK_VERSIONS" "5 6 7".toList
  assign "FROYO_SDK_VERSIONS" "8".toList
  assign "GINGERBREAD_SDK_VERSIONS" "9 10".toList
  assign "HONEYCOMB_SDK_VERSIONS" "11 12 13".toList
  assign "ICECREAM_SANDWICH_SDK_VERSIONS" "14 15".toList
  assign "JELLY_BEAN_SDK_VERSIONS" "16 17 18".toList

/-! ## The questions -/

def getVendorBoardPlatforms (v : Text) : StateM Vars Text := do
  let uses ← lookup ("BOARD_USES_" ++ String.ofList v ++ "_HARDWARE")
  let platforms ← lookup (String.ofList v ++ "_BOARD_PLATFORMS")
  return ifText (matchWord uses yes) platforms []

def isBoardPlatform (bp : Text) : StateM Vars Text := do
  return matchWord bp (← lookup "TARGET_BOARD_PLATFORM")

def isNotBoardPlatform (bp : Text) : StateM Vars Text := do
  return ifText (matchWord bp (← lookup "TARGET_BOARD_PLATFORM")) [] yes

section Questions

variable (make : Reader)

def isBoardPlatformInList (bpl : Text) : StateM Vars Text := do
  matchWordInList make (← lookup "TARGET_BOARD_PLATFORM") bpl

def isVendorBoardPlatform (vendor : Text) : StateM Vars Text := do
  let platforms ← getVendorBoardPlatforms vendor
  let found ← matchWordInList make (← lookup "TARGET_BOARD_PLATFORM") platforms
  return strip found

def isChipsetInBoardPlatform (chipset : Text) : StateM Vars Text := do
  matchPrefix make chipset underscore (← lookup "TARGET_BOARD_PLATFORM")

/-- `$(or ..)` does not look at what comes behind the first text that is not empty. -/
def isChipsetPrefixInBoardPlatform (p : Text) : StateM Vars Text := do
  evalAssign make "delim_a" ['a']
  let found ← matchPrefix make p (← lookup "delim_a") (← lookup "TARGET_BOARD_PLATFORM")
  if found ≠ [] then
    return strip yes
  else
    let found ← matchPrefix make p underscore (← lookup "TARGET_BOARD_PLATFORM")
    return strip (ifText found yes [])

def isAndroidCodename (codename : Text) : StateM Vars Text := do
  let found ← matchWordInList make (← lookup "PLATFORM_SDK_VERSION")
    (← lookup (String.ofList codename ++ "_SDK_VERSIONS"))
  return strip (ifText found yes [])

/-- One round of the loop: `acn` gets a word if the version goes by the name. -/
def addIfCodename (i : Text) : StateM Vars Unit := do
  let found ← matchWordInList make (← lookup "PLATFORM_SDK_VERSION")
    (← lookup (String.ofList i ++ "_SDK_VERSIONS"))
  evalAppend make "acn" (ifText found yes [])

def isAndroidCodenameInList (cnlist : Text) : StateM Vars Text := do
  evalAssign make "acn" []
  (words cnlist).forM (addIfCodename make)
  return strip (ifText (strip (← lookup "acn")) yes [])

end Questions

/-! ## The answers -/

section Answers

variable {make : Reader} {vars : Vars} {p : Text}

/-- The board is a plain word, which is what every board calls itself. -/
def PlainBoard (vars : Vars) : Prop := Plain (vars "TARGET_BOARD_PLATFORM")

theorem isBoardPlatform_yields (bp : Text) (vars : Vars) :
    Yields (isBoardPlatform bp) vars (truth (bp = vars "TARGET_BOARD_PLATFORM")) [] :=
  ⟨matchWord_eq bp _, fun _ _ => rfl⟩

theorem isNotBoardPlatform_yields (bp : Text) (vars : Vars) :
    Yields (isNotBoardPlatform bp) vars (truth (bp ≠ vars "TARGET_BOARD_PLATFORM")) [] := by
  have hrun : isNotBoardPlatform bp vars =
      (ifText (matchWord bp (vars "TARGET_BOARD_PLATFORM")) [] yes, vars) := rfl
  refine ⟨?_, fun _ _ => rfl⟩
  rw [hrun, matchWord_eq]
  unfold ifText truth
  by_cases heq : bp = vars "TARGET_BOARD_PLATFORM"
  · simp [heq, yes]
  · simp [heq]

theorem words_board (hboard : PlainBoard vars) :
    words (vars "TARGET_BOARD_PLATFORM") = [vars "TARGET_BOARD_PLATFORM"] :=
  words_of_isWord hboard.isWord

theorem strip_yes : strip yes = yes := by decide

/-- What `match-prefix` says of the board. -/
theorem matchPrefix_board (make : Reader) (hp : Plain p) (hpercent : '%' ∉ p)
    (hboard : PlainBoard vars) {c : Char} (hc : Plain [c]) (hne : c ≠ '%') (vars' : Vars) :
    Yields (matchPrefix make p [c] (vars "TARGET_BOARD_PLATFORM")) vars'
      (truth (vars "TARGET_BOARD_PLATFORM" = p ∨ p ++ [c] <+: vars "TARGET_BOARD_PLATFORM"))
      ["wl", "w", "m", "text"] := by
  have hplain : ∀ w ∈ words (vars "TARGET_BOARD_PLATFORM"), Plain w := by
    rw [words_board hboard]
    exact List.forall_mem_singleton.mpr hboard
  have hyields := matchPrefix_yields make hp hpercent hc (by simpa using hne.symm) hplain vars'
  have hmem : (∃ w ∈ words (vars "TARGET_BOARD_PLATFORM"), w = p ∨ p ++ [c] <+: w) ↔
      vars "TARGET_BOARD_PLATFORM" = p ∨ p ++ [c] <+: vars "TARGET_BOARD_PLATFORM" := by
    rw [words_board hboard]
    simp
  rwa [truth_congr hmem] at hyields

theorem isChipsetInBoardPlatform_yields (make : Reader) (hp : Plain p) (hpercent : '%' ∉ p)
    (hboard : PlainBoard vars) :
    Yields (isChipsetInBoardPlatform make p) vars
      (truth (vars "TARGET_BOARD_PLATFORM" = p ∨ p ++ ['_'] <+: vars "TARGET_BOARD_PLATFORM"))
      ["wl", "w", "m", "text"] := by
  obtain ⟨hreturns, hkeeps⟩ := matchPrefix_board make hp hpercent hboard (c := '_') (by decide)
    (by decide) vars
  have hrun : isChipsetInBoardPlatform make p vars =
      matchPrefix make p ['_'] (vars "TARGET_BOARD_PLATFORM") vars := by
    simp only [isChipsetInBoardPlatform, bind_run, lookup_run, underscore]
  exact ⟨by rw [hrun, hreturns], by rwa [hrun]⟩

/-- Of two questions the second one is asked only if the answer to the first one is no. -/
theorem or_yields {f g : StateM Vars Text} {names : List String} {q r : Prop} [Decidable q]
    [Decidable r] (hf : Yields f vars (truth q) names) (hg : Yields g (f vars).2 (truth r) names) :
    Yields (do
      let found ← f
      if found ≠ [] then
        return strip yes
      else
        let found ← g
        return strip (ifText found yes [])) vars (truth (q ∨ r)) names := by
  by_cases hq : q
  · have hfound : (f vars).1 ≠ [] := by
      rw [hf.returns]
      exact truth_ne_nil.mpr hq
    constructor
    · rw [bind_run, if_pos hfound, pure_run, strip_yes, truth, if_pos (.inl hq)]
    · intro name hname
      rw [bind_run, if_pos hfound, pure_run]
      exact hf.keeps name hname
  · have hfound : ¬ (f vars).1 ≠ [] := by
      rw [hf.returns]
      exact fun h => hq (truth_ne_nil.mp h)
    constructor
    · rw [bind_run, if_neg hfound, bind_run, pure_run]
      dsimp only
      rw [hg.returns, ifText_truth, strip_truth, truth_congr (or_iff_right hq)]
    · intro name hname
      rw [bind_run, if_neg hfound, bind_run, pure_run]
      exact (hg.keeps name hname).trans (hf.keeps name hname)

/-- The first delimiter that is tried is an `a`, and the underscore comes second. -/
theorem chipsetPrefix_yields (make : Reader) (hp : Plain p) (hpercent : '%' ∉ p)
    (hboard : PlainBoard vars) :
    Yields (isChipsetPrefixInBoardPlatform make p) vars
      (truth (vars "TARGET_BOARD_PLATFORM" = p ∨ p ++ ['a'] <+: vars "TARGET_BOARD_PLATFORM" ∨
        p ++ ['_'] <+: vars "TARGET_BOARD_PLATFORM"))
      ["wl", "w", "m", "text", "delim_a"] := by
  obtain ⟨vars₁, hvars₁⟩ : ∃ vars₁ : Vars, vars₁ = Function.update vars "delim_a" ['a'] := ⟨_, rfl⟩
  have hboard₁ : vars₁ "TARGET_BOARD_PLATFORM" = vars "TARGET_BOARD_PLATFORM" := by simp [hvars₁]
  have ha := matchPrefix_board make hp hpercent hboard (c := 'a') (by decide) (by decide) vars₁
  generalize hfirst : matchPrefix make p ['a'] (vars "TARGET_BOARD_PLATFORM") = first at ha
  -- the first question leaves the board alone
  have hboard₂ : (first vars₁).2 "TARGET_BOARD_PLATFORM" = vars "TARGET_BOARD_PLATFORM" :=
    (ha.keeps _ (by decide)).trans hboard₁
  have h_ : Yields (isChipsetInBoardPlatform make p) (first vars₁).2
      (truth (vars "TARGET_BOARD_PLATFORM" = p ∨ p ++ ['_'] <+: vars "TARGET_BOARD_PLATFORM"))
      ["wl", "w", "m", "text"] := by
    rw [← hboard₂]
    apply isChipsetInBoardPlatform_yields make hp hpercent
    rw [PlainBoard, hboard₂]
    exact hboard
  obtain ⟨hreturns, hkeeps⟩ := or_yields ha h_
  have hrun : isChipsetPrefixInBoardPlatform make p vars = (do
      let found ← first
      if found ≠ [] then
        return strip yes
      else
        let found ← isChipsetInBoardPlatform make p
        return strip (ifText found yes []) : StateM Vars Text) vars₁ := by
    have hdrop : List.dropWhile isBlank ['a'] = ['a'] := rfl
    have hliteral : Literal ['a'] := by decide
    have hdelim : vars₁ "delim_a" = ['a'] := by simp [hvars₁]
    unfold isChipsetPrefixInBoardPlatform
    rw [bind_run, evalAssign_run _ hliteral, hdrop, ← hvars₁]
    dsimp only
    rw [bind_run, lookup_run]
    dsimp only
    rw [bind_run, lookup_run]
    dsimp only
    rw [hboard₁, hdelim, hfirst]
    simp only [isChipsetInBoardPlatform, bind_assoc]
  have hany : (vars "TARGET_BOARD_PLATFORM" = p ∨ p ++ ['a'] <+: vars "TARGET_BOARD_PLATFORM") ∨
      (vars "TARGET_BOARD_PLATFORM" = p ∨ p ++ ['_'] <+: vars "TARGET_BOARD_PLATFORM") ↔
        vars "TARGET_BOARD_PLATFORM" = p ∨ p ++ ['a'] <+: vars "TARGET_BOARD_PLATFORM" ∨
          p ++ ['_'] <+: vars "TARGET_BOARD_PLATFORM" := by
    rw [← or_or_distrib_left]
  constructor
  · rw [hrun, hreturns, truth_congr hany]
  · intro name hname
    simp only [List.mem_cons, List.not_mem_nil, or_false, not_or] at hname
    rw [hrun, hkeeps name (by simp [hname]), hvars₁]
    exact Function.update_of_ne hname.2.2.2.2 _ _

/-- A variable with a value, and nothing else. -/
def device (name value : String) : Vars := Function.update (fun _ => []) name value.toList

theorem qcomBoards_board (vars : Vars) :
    (qcomBoards vars).2 "TARGET_BOARD_PLATFORM" = vars "TARGET_BOARD_PLATFORM" := rfl

/-- **A name that is read from `MSMNILE` or `TRINKET` is never the board**, since it ends with a
blank; on a list it is. -/
theorem commented_names_never_match (make : Reader) (hboard : PlainBoard vars)
    {name board : String}
    (hname : (name, board) ∈ [("MSMNILE", "msmnile"), ("TRINKET", "trinket")]) :
    (isBoardPlatform ((qcomBoards vars).2 name) (qcomBoards vars).2).1 = [] ∧
      (isNotBoardPlatform ((qcomBoards vars).2 name) (qcomBoards vars).2).1 = yes ∧
      (isBoardPlatformInList make ((qcomBoards vars).2 name) (qcomBoards vars).2).1 =
        truth (vars "TARGET_BOARD_PLATFORM" = board.toList) := by
  have hvalue : (qcomBoards vars).2 name = board.toList ++ [' '] := by
    rcases List.mem_cons.mp hname with h | h
    · cases h
      rfl
    · cases List.mem_singleton.mp h
      rfl
  have hplain : Plain board.toList := by
    rcases List.mem_cons.mp hname with h | h
    · cases h
      decide
    · cases List.mem_singleton.mp h
      decide
  have hne : board.toList ++ [' '] ≠ (qcomBoards vars).2 "TARGET_BOARD_PLATFORM" := by
    rw [qcomBoards_board]
    intro heq
    have hblank := hboard.isWord.2 ' ' (by simp [← heq])
    cases hblank
  rw [hvalue]
  refine ⟨?_, ?_, ?_⟩
  · rw [(isBoardPlatform_yields _ _).returns, truth, if_neg hne]
  · rw [(isNotBoardPlatform_yields _ _).returns, truth, if_pos hne]
  · have hwords : words (board.toList ++ [' ']) = [board.toList] := by
      rw [words_append_blank, words_of_isWord hplain.isWord]
      rfl
    have hlist : ∀ w ∈ words (board.toList ++ [' ']), Plain w := by
      rw [hwords]
      exact List.forall_mem_singleton.mpr hplain
    have hyields := (matchWordInList_plain make hboard hlist (qcomBoards vars).2).returns
    rw [hwords] at hyields
    exact hyields.trans (truth_congr List.mem_singleton)

theorem commented_names_never_match_msmnile :
    (isBoardPlatform ((qcomBoards (device "TARGET_BOARD_PLATFORM" "msmnile")).2 "MSMNILE")
        (qcomBoards (device "TARGET_BOARD_PLATFORM" "msmnile")).2).1 = [] ∧
      (isNotBoardPlatform ((qcomBoards (device "TARGET_BOARD_PLATFORM" "msmnile")).2 "MSMNILE")
        (qcomBoards (device "TARGET_BOARD_PLATFORM" "msmnile")).2).1 = yes ∧
      (isBoardPlatformInList uncommented
          ((qcomBoards (device "TARGET_BOARD_PLATFORM" "msmnile")).2 "MSMNILE")
          (qcomBoards (device "TARGET_BOARD_PLATFORM" "msmnile")).2).1 =
        truth (device "TARGET_BOARD_PLATFORM" "msmnile" "TARGET_BOARD_PLATFORM" =
          "msmnile".toList) :=
  commented_names_never_match uncommented (by decide +kernel : Plain _) List.mem_cons_self

/-- **The board is the vendor's** if the vendor's hardware is used and the board is on its list. -/
theorem isVendorBoardPlatform_yields (make : Reader) (vendor : Text) (hboard : PlainBoard vars)
    (hlist : ∀ w ∈ words (vars (String.ofList vendor ++ "_BOARD_PLATFORMS")), Plain w) :
    Yields (isVendorBoardPlatform make vendor) vars
      (truth (vars ("BOARD_USES_" ++ String.ofList vendor ++ "_HARDWARE") = yes ∧
        vars "TARGET_BOARD_PLATFORM" ∈ words (vars (String.ofList vendor ++ "_BOARD_PLATFORMS"))))
      ["wl", "w", "m"] := by
  have hplatforms : getVendorBoardPlatforms vendor vars =
      (ifText (truth (vars ("BOARD_USES_" ++ String.ofList vendor ++ "_HARDWARE") = yes))
        (vars (String.ofList vendor ++ "_BOARD_PLATFORMS")) [], vars) := by
    simp only [getVendorBoardPlatforms, bind_run, pure_run, lookup_run, matchWord_eq]
    rfl
  have hrun (platforms : Text) (h : getVendorBoardPlatforms vendor vars = (platforms, vars)) :
      isVendorBoardPlatform make vendor vars =
        (strip (matchWordInList make (vars "TARGET_BOARD_PLATFORM") platforms vars).1,
          (matchWordInList make (vars "TARGET_BOARD_PLATFORM") platforms vars).2) := by
    simp only [isVendorBoardPlatform, bind_run, pure_run, lookup_run, h]
  have hyields (platforms : Text) (h : getVendorBoardPlatforms vendor vars = (platforms, vars))
      (hlist : ∀ w ∈ words platforms, Plain w) :
      Yields (isVendorBoardPlatform make vendor) vars
        (truth (vars "TARGET_BOARD_PLATFORM" ∈ words platforms)) ["wl", "w", "m"] := by
    obtain ⟨hreturns, hkeeps⟩ := matchWordInList_plain make hboard hlist vars
    constructor
    · rw [hrun platforms h, hreturns, strip_truth]
    · intro name hname
      rw [hrun platforms h]
      exact hkeeps name hname
  by_cases huses : vars ("BOARD_USES_" ++ String.ofList vendor ++ "_HARDWARE") = yes
  · rw [truth_congr (and_iff_right huses)]
    apply hyields _ ?_ hlist
    rw [hplatforms, ifText, if_pos (truth_ne_nil.mpr huses)]
  · have hnil : vars "TARGET_BOARD_PLATFORM" ∉ words [] := List.not_mem_nil
    have hnot : ¬ (vars ("BOARD_USES_" ++ String.ofList vendor ++ "_HARDWARE") = yes ∧
        vars "TARGET_BOARD_PLATFORM" ∈ words (vars (String.ofList vendor ++ "_BOARD_PLATFORMS"))) :=
      fun h => huses h.1
    rw [← truth_congr (iff_of_false hnil hnot)]
    apply hyields [] ?_ (by rintro w ⟨⟩)
    rw [hplatforms, ifText, if_neg (fun h => huses (truth_ne_nil.mp h))]

theorem isVendorBoardPlatform_qcom :
    Yields (isVendorBoardPlatform uncommented "QCOM".toList)
      (Function.update (qcomBoards (device "TARGET_BOARD_PLATFORM" "msm8998")).2
        "BOARD_USES_QCOM_HARDWARE" yes) yes ["wl", "w", "m"] :=
  isVendorBoardPlatform_yields uncommented "QCOM".toList (by decide +kernel : Plain _)
    (by decide +kernel)

/-! ## The version of the platform -/

/-- The version goes by the name. -/
def GoesBy (vars : Vars) (codename : Text) : Prop :=
  vars "PLATFORM_SDK_VERSION" ∈ words (vars (String.ofList codename ++ "_SDK_VERSIONS"))

instance (codename : Text) : Decidable (GoesBy vars codename) :=
  inferInstanceAs (Decidable (_ ∈ words _))

/-- The version is a plain word, and so are the versions of the names. -/
structure PlainVersions (vars : Vars) (codenames : List Text) : Prop where
  version : Plain (vars "PLATFORM_SDK_VERSION")
  versions : ∀ codename ∈ codenames,
    ∀ w ∈ words (vars (String.ofList codename ++ "_SDK_VERSIONS")), Plain w

theorem words_truth_eq_nil {q : Prop} [Decidable q] : words (truth q) = [] ↔ ¬ q := by
  unfold truth
  split
  · next hq => exact iff_of_false (by decide) (not_not_intro hq)
  · next hq => exact iff_of_true (by decide) hq

/-- The variables of the loop are no lists of versions. -/
theorem sdkVersions_ne (codename : String) :
    codename ++ "_SDK_VERSIONS" ∉ ["wl", "w", "m", "acn"] := by
  intro hmem
  have hlength : ∀ name ∈ ["wl", "w", "m", "acn"], name.length ≤ 3 := by decide
  have hle := hlength _ hmem
  rw [String.length_append, show "_SDK_VERSIONS".length = 13 by decide] at hle
  omega

theorem isAndroidCodename_yields (make : Reader) {codename : Text}
    (hplain : PlainVersions vars [codename]) :
    Yields (isAndroidCodename make codename) vars (truth (GoesBy vars codename))
      ["wl", "w", "m"] := by
  obtain ⟨hreturns, hkeeps⟩ := matchWordInList_plain make hplain.version
    (hplain.versions codename List.mem_cons_self) vars
  have hrun : isAndroidCodename make codename vars =
      (strip (ifText (truth (GoesBy vars codename)) yes []),
        (matchWordInList make (vars "PLATFORM_SDK_VERSION")
          (vars (String.ofList codename ++ "_SDK_VERSIONS")) vars).2) := by
    simp only [isAndroidCodename, bind_run, pure_run, lookup_run, hreturns]
    rfl
  constructor
  · rw [hrun, ifText_truth, strip_truth]
  · intro name hname
    rw [hrun]
    exact hkeeps name hname

/-- One round adds a word if the version goes by the name, and is about no other variables. -/
theorem addIfCodename_run {held : Vars} {i : Text} (make : Reader)
    (hplain : PlainVersions vars [i])
    (hsame : ∀ name, name ∉ ["wl", "w", "m", "acn"] → held name = vars name) :
    (∀ name, name ∉ ["wl", "w", "m", "acn"] → (addIfCodename make i held).2 name = vars name) ∧
      words ((addIfCodename make i held).2 "acn") =
        words (held "acn") ++ words (truth (GoesBy vars i)) := by
  have hversion : held "PLATFORM_SDK_VERSION" = vars "PLATFORM_SDK_VERSION" := hsame _ (by decide)
  have hlist := hsame _ (sdkVersions_ne (String.ofList i))
  obtain ⟨hreturns, hkeeps⟩ := matchWordInList_plain make hplain.version
    (hplain.versions i List.mem_cons_self) held
  have hrun : (addIfCodename make i held).2 = Function.update
      (matchWordInList make (vars "PLATFORM_SDK_VERSION")
        (vars (String.ofList i ++ "_SDK_VERSIONS")) held).2
      "acn" (if held "acn" = [] then (truth (GoesBy vars i)).dropWhile isBlank
        else held "acn" ++ ' ' :: (truth (GoesBy vars i)).dropWhile isBlank) := by
    simp only [addIfCodename, bind_run, lookup_run, hversion, hlist, hreturns, ifText_truth]
    rw [evalAppend_run _ literal_truth, append_run, hkeeps "acn" (by decide)]
    rfl
  constructor
  · intro name hname
    rw [hrun, ← hsame name hname]
    simp only [List.mem_cons, List.not_mem_nil, or_false, not_or] at hname
    rw [Function.update_of_ne hname.2.2.2]
    exact hkeeps name (by simp [hname])
  · rw [hrun, Function.update_self, words_append, words_dropWhile_blank]

theorem PlainVersions.of_mem {codename : Text} {codenames : List Text}
    (h : PlainVersions vars codenames) (hmem : codename ∈ codenames) :
    PlainVersions vars [codename] where
  version := h.version
  versions := List.forall_mem_singleton.mpr (h.versions codename hmem)

theorem forM_addIfCodename (make : Reader) (codenames : List Text)
    (hplain : PlainVersions vars codenames) {held : Vars}
    (hsame : ∀ name, name ∉ ["wl", "w", "m", "acn"] → held name = vars name) :
    (∀ name, name ∉ ["wl", "w", "m", "acn"] →
        (codenames.forM (addIfCodename make) held).2 name = vars name) ∧
      (words ((codenames.forM (addIfCodename make) held).2 "acn") ≠ [] ↔
        words (held "acn") ≠ [] ∨ ∃ codename ∈ codenames, GoesBy vars codename) := by
  induction codenames generalizing held with
  | nil => exact ⟨hsame, by simp [List.forM_nil]⟩
  | cons i codenames ih =>
      obtain ⟨hkeeps, hacn⟩ :=
        addIfCodename_run make (hplain.of_mem List.mem_cons_self) hsame
      obtain ⟨hkeeps', hacn'⟩ := ih ⟨hplain.version, fun codename hmem =>
        hplain.versions codename (List.mem_cons_of_mem i hmem)⟩ hkeeps
      have hrun : (i :: codenames).forM (addIfCodename make) held =
          codenames.forM (addIfCodename make) (addIfCodename make i held).2 := rfl
      rw [hrun]
      refine ⟨hkeeps', ?_⟩
      rw [hacn', hacn, List.exists_mem_cons_iff, Ne, List.append_eq_nil_iff, words_truth_eq_nil,
        not_and_or, not_not, or_assoc]

/-- The list is gone through with an accumulator that begins empty, whatever it held before. -/
theorem codenameInList_yields (make : Reader) (cnlist : Text)
    (hplain : PlainVersions vars (words cnlist)) :
    Yields (isAndroidCodenameInList make cnlist) vars
      (truth (∃ codename ∈ words cnlist, GoesBy vars codename)) ["wl", "w", "m", "acn"] := by
  have hsame : ∀ name, name ∉ ["wl", "w", "m", "acn"] →
      Function.update vars "acn" [] name = vars name := by
    intro name hname
    simp only [List.mem_cons, List.not_mem_nil, or_false, not_or] at hname
    exact Function.update_of_ne hname.2.2.2 _ _
  obtain ⟨hkeeps, hacn⟩ := forM_addIfCodename make (words cnlist) hplain hsame
  have hnil : Literal [] := fun _ hc => absurd hc List.not_mem_nil
  have hrun : isAndroidCodenameInList make cnlist vars =
      (strip (ifText (strip (((words cnlist).forM (addIfCodename make)
          (Function.update vars "acn" [])).2 "acn")) yes []),
        ((words cnlist).forM (addIfCodename make) (Function.update vars "acn" [])).2) := by
    simp only [isAndroidCodenameInList, bind_run, pure_run, lookup_run, evalAssign_run _ hnil,
      List.dropWhile_nil]
  constructor
  · rw [hrun]
    dsimp only
    rw [Function.update_self] at hacn
    have hstrip := (not_congr strip_eq_nil_iff).trans hacn
    have hnone : ¬ words [] ≠ [] := fun h => h rfl
    rw [or_iff_right hnone] at hstrip
    unfold ifText truth
    by_cases hfound : ∃ codename ∈ words cnlist, GoesBy vars codename
    · rw [if_pos (hstrip.mpr hfound), if_pos hfound, strip_yes]
    · rw [if_neg (fun h => hfound (hstrip.mp h)), if_neg hfound, strip_nil]
  · intro name hname
    rw [hrun]
    exact hkeeps name hname

/-- **The version goes by one of the names** on the list if it goes by one of them alone. -/
theorem isAndroidCodenameInList_yields (make : Reader) (cnlist : Text)
    (hplain : PlainVersions vars (words cnlist)) :
    Yields (isAndroidCodenameInList make cnlist) vars
        (truth (∃ codename ∈ words cnlist, GoesBy vars codename)) ["wl", "w", "m", "acn"] ∧
      ∀ codename ∈ words cnlist, Yields (isAndroidCodename make codename) vars
        (truth (GoesBy vars codename)) ["wl", "w", "m"] :=
  ⟨codenameInList_yields make cnlist hplain,
    fun _ hmem => isAndroidCodename_yields make (hplain.of_mem hmem)⟩

theorem isAndroidCodenameInList_eclair :
    (isAndroidCodenameInList uncommented "FROYO ECLAIR".toList
      (sdkVersions (device "PLATFORM_SDK_VERSION" "6")).2).1 = yes :=
  (isAndroidCodenameInList_yields uncommented _
    ⟨by decide +kernel, by decide +kernel⟩).1.returns.trans (by decide +kernel)

end Answers

end VendorRs.Build
