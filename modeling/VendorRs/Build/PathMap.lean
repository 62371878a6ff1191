import VendorRs.Build.Utils

/-!
# The map from projects to paths

`pathmap.mk` keeps a map in one variable, a word `name:path` for each entry. To enter a project is
to append a word, and to look one up is to take all words that begin with its name and a colon. So
an entry does not replace an older one of the same name: a project has all paths that were entered
for it, in that order (`projectPathFor_eq`).
-/

namespace VendorRs.Build

open Make

/-- What `pathmap.mk` assigns; a word of the list has no colon. -/
def pathmap : StateM Vars Unit :=
  assign "pathmap_PROJ" (unwords [
    "qcom-audio:hardware/qcom-caf/msm8998/audio".toList,
    "qcom-media:hardware/qcom-caf/msm8998/media".toList,
    "qcom-wlan:hardware/qcom/wlan/legacy".toList,
    "qcom-display:hardware/qcom-caf/msm8998/display".toList,
    "qcom-bt-vendor:hardware/qcom-caf/bt".toList,
    "qcom-data-ipa-cfg-mgr:vendor/qcom/opensource/data-ipa-cfg-mgr".toList,
    "qcom-dataservices:vendor/qcom/opensource/dataservices".toList,
    "qcom-thermal-hardware/qcom-caf/thermal".toList,
    "qcom-vr:hardware/qcom-caf/vr".toList])

def projectSetPath (make : Reader) (name path : Text) : StateM Vars Unit :=
  evalAppend make "pathmap_PROJ" (name ++ ':' :: path)

def projectPathFor (names : Text) : StateM Vars Text := do
  let map ← lookup "pathmap_PROJ"
  return foreach names fun n => patsubst (n ++ [':', '%']) ['%'] (filter (n ++ [':', '%']) map)

/-! ## The map -/

/-- An entry as it can be written. -/
structure Entry where
  name : Text
  path : Text
  isWord_name : IsWord name
  no_colon : ':' ∉ name
  isWord_path : IsWord path
  literal : Literal (name ++ ':' :: path)

def Entry.word (e : Entry) : Text := e.name ++ ':' :: e.path

/-- A name that can be looked up. -/
structure Query (n : Text) : Prop where
  isWord : IsWord n
  no_colon : ':' ∉ n
  no_percent : '%' ∉ n

instance (n : Text) : Decidable (Query n) :=
  decidable_of_iff (IsWord n ∧ ':' ∉ n ∧ '%' ∉ n)
    ⟨fun h => ⟨h.1, h.2.1, h.2.2⟩, fun h => ⟨h.isWord, h.no_colon, h.no_percent⟩⟩

/-- The paths of a project, in the order in which they were entered. -/
def pathsOf (entries : List Entry) (n : Text) : List Text :=
  (entries.filter (·.name = n)).map Entry.path

/-- The variable holds the entries, and words without colons besides. -/
def Holds (vars : Vars) (entries : List Entry) : Prop :=
  (words (vars "pathmap_PROJ")).filter (':' ∈ ·) = entries.map Entry.word

variable {make : Reader} {vars : Vars} {entries : List Entry} {e : Entry} {n : Text}

theorem Entry.isWord (e : Entry) : IsWord e.word := by
  have hcolon : IsWord [':'] := by decide
  exact isWord_append e.isWord_name (isWord_append hcolon e.isWord_path)

/-- An entry is found under its name. -/
theorem Entry.prefix_iff (e : Entry) (hn : Query n) : n ++ [':'] <+: e.word ↔ e.name = n := by
  have hname {w rest : Text} (hw : ':' ∉ w) : (w ++ ':' :: rest).takeWhile (· ≠ ':') = w := by
    have hfree : ∀ c ∈ w, decide (c ≠ ':') = true := by
      intro c hc
      have hne : c ≠ ':' := by
        rintro rfl
        exact hw hc
      simpa using hne
    rw [List.takeWhile_append_of_pos hfree]
    simp
  constructor
  · rintro ⟨rest, hrest⟩
    rw [List.append_assoc, List.singleton_append] at hrest
    rw [← hname e.no_colon, ← hname hn.no_colon, hrest]
    rfl
  · rintro rfl
    exact ⟨e.path, by simp [Entry.word]⟩

/-! ## One project -/

theorem splitPercent_query (hn : Query n) :
    splitPercent (n ++ [':', '%']) = some (n ++ [':'], []) := by
  have hcolon : '%' ∉ n ++ [':'] := by simp [hn.no_percent]
  have h := splitPercent_snoc hcolon
  rwa [List.append_assoc] at h

theorem matchesPattern_query (hn : Query n) (w : Text) :
    matchesPattern (n ++ [':', '%']) w = decide (n ++ [':'] <+: w) := by
  rw [matchesPattern, splitPercent_query hn]
  dsimp only
  rw [stem_nil]
  by_cases h : n ++ [':'] <+: w
  · simp [h]
  · simp [h]

/-- The path is what is behind the colon. -/
theorem patsubstWord_query (hn : Query n) (h : e.name = n) :
    patsubstWord (n ++ [':', '%']) ['%'] e.word = e.path := by
  have hsplit : splitPercent ['%'] = some ([], []) := rfl
  rw [patsubstWord, splitPercent_query hn]
  dsimp only
  rw [stem_nil, if_pos ((e.prefix_iff hn).mpr h), hsplit]
  subst h
  simp [Entry.word]

theorem words_filter_query (hn : Query n) (text : Text) :
    words (filter (n ++ [':', '%']) text) = (words text).filter (n ++ [':'] <+: ·) := by
  have hpattern : words (n ++ [':', '%']) = [n ++ [':', '%']] :=
    words_of_isWord (isWord_append hn.isWord (by decide))
  have hsame : (words text).filter
      (fun w => (words (n ++ [':', '%'])).any (matchesPattern · w)) =
        (words text).filter (n ++ [':'] <+: ·) := by
    apply List.filter_congr
    intro w _
    rw [hpattern, List.any_cons, List.any_nil, Bool.or_false, matchesPattern_query hn]
  rw [filter, hsame]
  apply words_unwords
  intro w hw
  exact isWord_of_mem_words (List.mem_filter.mp hw).1

/-- The words that begin with the name and a colon are the entries of that name. -/
theorem Holds.filter (h : Holds vars entries) (hn : Query n) :
    (words (vars "pathmap_PROJ")).filter (n ++ [':'] <+: ·) =
      (entries.filter (·.name = n)).map Entry.word := by
  have hcolon (w : Text) : (decide (n ++ [':'] <+: w) && decide (':' ∈ w)) =
      decide (n ++ [':'] <+: w) := by
    by_cases h : n ++ [':'] <+: w
    · simp [h, h.subset (List.mem_append_right n List.mem_cons_self)]
    · simp [h]
  calc (words (vars "pathmap_PROJ")).filter (n ++ [':'] <+: ·)
      = ((words (vars "pathmap_PROJ")).filter (':' ∈ ·)).filter (n ++ [':'] <+: ·) := by
        rw [List.filter_filter]
        exact List.filter_congr fun w _ => (hcolon w).symm
    _ = (entries.map Entry.word).filter (n ++ [':'] <+: ·) := by rw [h]
    _ = (entries.filter (·.name = n)).map Entry.word := by
        rw [List.filter_map]
        congr 1
        apply List.filter_congr
        intro e _
        simp only [Function.comp_apply, e.prefix_iff hn]

theorem Holds.paths (h : Holds vars entries) (hn : Query n) :
    patsubst (n ++ [':', '%']) ['%'] (Make.filter (n ++ [':', '%']) (vars "pathmap_PROJ")) =
      unwords (pathsOf entries n) := by
  have hpaths : ((entries.filter (·.name = n)).map Entry.word).map
      (patsubstWord (n ++ [':', '%']) ['%']) = pathsOf entries n := by
    rw [List.map_map, pathsOf]
    apply List.map_congr_left
    intro e he
    exact patsubstWord_query hn (by simpa using (List.mem_filter.mp he).2)
  rw [patsubst, words_filter_query hn, h.filter hn, hpaths, List.filter_eq_self.mpr]
  intro path hpath
  obtain ⟨e, -, rfl⟩ := List.mem_map.mp hpath
  simpa using e.isWord_path.1

/-! ## The whole map -/

theorem Holds.set (make : Reader) (h : Holds vars entries) (e : Entry) :
    Holds (projectSetPath make e.name e.path vars).2 (entries ++ [e]) := by
  have hcolon : ':' ∈ e.word := by simp [Entry.word]
  have hliteral : Literal e.word := e.literal
  have hdrop : e.word.dropWhile isBlank = e.word := dropWhile_blank_of_isWord e.isWord
  have hwords : words ((projectSetPath make e.name e.path vars).2 "pathmap_PROJ") =
      words (vars "pathmap_PROJ") ++ [e.word] := by
    rw [projectSetPath, ← Entry.word, evalAppend_run _ hliteral, hdrop, append_run]
    dsimp only
    rw [Function.update_self, words_append, words_of_isWord e.isWord]
  rw [Holds, hwords, List.filter_append, h, List.map_append]
  simp [hcolon]

theorem Holds.setAll (make : Reader) (h : Holds vars entries) (es : List Entry) :
    Holds (es.forM (fun e => projectSetPath make e.name e.path) vars).2 (entries ++ es) := by
  induction es generalizing vars entries with
  | nil => simpa using h
  | cons e es ih =>
      have hrest := ih (h.set make e)
      rw [List.append_assoc, List.singleton_append] at hrest
      exact hrest

/-- What the variable holds to begin with. -/
def builtin : List Entry := [
  ⟨"qcom-audio".toList, "hardware/qcom-caf/msm8998/audio".toList, by decide, by decide, by decide,
    by decide⟩,
  ⟨"qcom-media".toList, "hardware/qcom-caf/msm8998/media".toList, by decide, by decide, by decide,
    by decide⟩,
  ⟨"qcom-wlan".toList, "hardware/qcom/wlan/legacy".toList, by decide, by decide, by decide,
    by decide⟩,
  ⟨"qcom-display".toList, "hardware/qcom-caf/msm8998/display".toList, by decide, by decide,
    by decide, by decide⟩,
  ⟨"qcom-bt-vendor".toList, "hardware/qcom-caf/bt".toList, by decide, by decide, by decide,
    by decide⟩,
  ⟨"qcom-data-ipa-cfg-mgr".toList, "vendor/qcom/opensource/data-ipa-cfg-mgr".toList, by decide,
    by decide, by decide, by decide⟩,
  ⟨"qcom-dataservices".toList, "vendor/qcom/opensource/dataservices".toList, by decide, by decide,
    by decide, by decide⟩,
  ⟨"qcom-vr".toList, "hardware/qcom-caf/vr".toList, by decide, by decide, by decide, by decide⟩]

/-- The word without a colon is no entry. -/
theorem holds_pathmap (vars : Vars) : Holds (pathmap vars).2 builtin := by
  simp only [Holds, pathmap, assign_run, Function.update_self]
  rw [words_unwords (by decide +kernel)]
  decide +kernel

/-- **A project has all paths that were ever entered for it**, those of the makefile first. -/
theorem projectPathFor_eq (make : Reader) (es : List Entry) (names : Text)
    (hnames : ∀ n ∈ words names, Query n) (vars : Vars) :
    ((do
      pathmap
      es.forM fun e => projectSetPath make e.name e.path
      projectPathFor names : StateM Vars Text) vars).1 =
      unwords ((words names).map fun n => unwords (pathsOf (builtin ++ es) n)) := by
  have hholds := (holds_pathmap vars).setAll make es
  simp only [bind_run, projectPathFor, pure_run, lookup_run, foreach]
  rw [List.map_congr_left]
  intro n hn
  exact hholds.paths (hnames n hn)

/-- The audio of a device beside the one there is, and a project whose entry lacks the colon. -/
theorem projectPathFor_eq_audio :
    ((do
      pathmap
      [⟨"qcom-audio".toList, "device/audio".toList, by decide, by decide, by decide,
        by decide⟩].forM fun e : Entry => projectSetPath uncommented e.name e.path
      projectPathFor "qcom-audio qcom-thermal".toList : StateM Vars Text) fun _ => []).1 =
      "hardware/qcom-caf/msm8998/audio device/audio ".toList :=
  (projectPathFor_eq uncommented [⟨_, _, by decide, by decide, by decide, by decide⟩] _
    (by decide +kernel) _).trans (by decide +kernel)

end VendorRs.Build
