import Mathlib.Data.Finset.Max
import VendorRs.Utils

/-!
# The icons that are kept out of the status bar

The secure setting `icon_blacklist` lists them, with commas between them. To hide an icon is to put
it on the list, and to add it back is to take it off. Neither looks at the list as a list: an icon
is taken to be on it if its name occurs anywhere in the text, and is taken off wherever it occurs.

So both do what they should as long as no icon on the list has the name inside its own,
`blacklist_acts_as_set_iff`.
-/

namespace VendorRs.IconBlacklist

open Java Utils

/-- The icons on the list, in order. Nothing between two commas is no icon. -/
def tokens : Option String → List String
  | none => []
  | some text => ((text.toList.splitOn ',').map String.ofList).filter (· ≠ "")

def icons (blacklist : Option String) : Finset String := (tokens blacklist).toFinset

/-- What the two operations should be to the set of icons on the list. -/
structure ActsAsSet (blacklist : Option String) (icon : String) : Prop where
  inserts : icons (removeUnwantendStatusBarIcon blacklist icon) = insert icon (icons blacklist)
  erases : icons (addWantedStatusBarIconIfMissing blacklist icon) = (icons blacklist).erase icon
  othersStay :
    (tokens (removeUnwantendStatusBarIcon blacklist icon)).filter (· ≠ icon) =
        (tokens blacklist).filter (· ≠ icon) ∧
      (tokens (addWantedStatusBarIconIfMissing blacklist icon)).filter (· ≠ icon) =
        (tokens blacklist).filter (· ≠ icon)
  idempotent :
    removeUnwantendStatusBarIcon (removeUnwantendStatusBarIcon blacklist icon) icon =
        removeUnwantendStatusBarIcon blacklist icon ∧
      addWantedStatusBarIconIfMissing (addWantedStatusBarIconIfMissing blacklist icon) icon =
        addWantedStatusBarIconIfMissing blacklist icon

/-- No other icon on the list has the name of this one inside its own. -/
def StandsAlone (blacklist : Option String) (icon : String) : Prop :=
  ∀ token ∈ icons blacklist, contains token icon → token = icon

variable {blacklist : Option String} {text icon token : String}

@[simp] theorem mem_icons : token ∈ icons blacklist ↔ token ∈ tokens blacklist := List.mem_toFinset

theorem ne_empty_of_mem_tokens (h : token ∈ tokens blacklist) : token ≠ "" := by
  cases blacklist with
  | none => cases h
  | some text => simpa using (List.mem_filter.mp h).2

theorem contains_iff : contains text icon = true ↔ icon.toList <:+: text.toList :=
  decide_eq_true_iff

theorem toList_ne_nil (hicon : icon ≠ "") : icon.toList ≠ [] := by
  intro hnil
  exact hicon (String.toList_eq_nil_iff.mp hnil)

/-! ## Putting an icon on the list -/

theorem tokens_append (hicon : icon ≠ "") (hcomma : ',' ∉ icon.toList) :
    tokens (some (text ++ "," ++ icon)) = tokens (some text) ++ [icon] := by
  have hsplit : (text ++ "," ++ icon).toList.splitOn ',' =
      text.toList.splitOn ',' ++ [icon.toList] := by
    have hchars : (text ++ "," ++ icon).toList = text.toList ++ ',' :: icon.toList := by simp
    rw [hchars, List.splitOn_append_cons_self, List.splitOn_eq_singleton hcomma]
  simp only [tokens, hsplit, List.map_append, List.filter_append]
  simp [hicon]

/-- A name that occurs in the text occurs in one of the icons on the list. -/
theorem exists_token (hicon : icon ≠ "") (hcomma : ',' ∉ icon.toList)
    (h : contains text icon = true) : ∃ token ∈ tokens (some text), contains token icon := by
  obtain ⟨field, hfield, hinfix⟩ :=
    Fields.exists_infix_splitOn (toList_ne_nil hicon) hcomma (contains_iff.mp h)
  refine ⟨String.ofList field, ?_, contains_iff.mpr (by rwa [String.toList_ofList])⟩
  apply List.mem_filter.mpr
  refine ⟨List.mem_map_of_mem hfield, ?_⟩
  have hne : field ≠ [] := by
    rintro rfl
    exact toList_ne_nil hicon (List.infix_nil.mp hinfix)
  simpa using hne

/-! ## Taking an icon off the list -/

theorem deleteAll_of_not_contains (h : ¬ contains text icon = true) :
    deleteAll text icon = text := by
  rw [contains_iff] at h
  rw [deleteAll, Fields.delete_of_not_infix h, String.ofList_toList]

/-- Whether the name occurs need not be asked first. -/
theorem addWanted_eq_map (blacklist : Option String) (icon : String) :
    addWantedStatusBarIconIfMissing blacklist icon = blacklist.map (deleteAll · icon) := by
  cases blacklist with
  | none => rfl
  | some text =>
      rw [addWantedStatusBarIconIfMissing, Option.map_some]
      split
      · rfl
      · next hnot => rw [deleteAll_of_not_contains hnot]

theorem length_deleteAll_lt (hicon : icon ≠ "") (h : contains text icon = true) :
    (deleteAll text icon).length < text.length := by
  rw [deleteAll, String.length_ofList, ← String.length_toList]
  exact Fields.length_delete_lt (toList_ne_nil hicon) (contains_iff.mp h)

@[simp] theorem deleteAll_self (icon : String) : deleteAll icon icon = "" := by
  rw [deleteAll, Fields.delete_self]

theorem deleteAll_empty : deleteAll "" icon = "" := by
  rw [deleteAll, String.toList_empty, Fields.delete, Fields.deleteFrom_nil]

/-- The name is deleted from each icon on the list, and what is nothing then is gone. -/
theorem tokens_deleteAll (hcomma : ',' ∉ icon.toList) :
    tokens (some (deleteAll text icon)) =
      ((tokens (some text)).map (deleteAll · icon)).filter (· ≠ "") := by
  have hfields : ((deleteAll text icon).toList.splitOn ',').map String.ofList =
      ((text.toList.splitOn ',').map String.ofList).map (deleteAll · icon) := by
    rw [deleteAll, String.toList_ofList, Fields.splitOn_delete hcomma, List.map_map, List.map_map]
    apply List.map_congr_left
    intro field _
    simp [deleteAll]
  rw [tokens, hfields, tokens]
  generalize (text.toList.splitOn ',').map String.ofList = fields
  rw [List.filter_map, List.filter_map, List.filter_filter]
  apply congrArg
  apply List.filter_congr
  -- between two commas there is nothing to delete
  intro field _
  by_cases hempty : field = ""
  · simp [hempty, deleteAll_empty]
  · simp [hempty]

/-! ## Icons that stand alone -/

/-- A name that is on the list already, or seems to be, is not put there again. -/
theorem removeUnwanted_cases (blacklist : Option String) (hicon : icon ≠ "")
    (hcomma : ',' ∉ icon.toList) :
    (removeUnwantendStatusBarIcon blacklist icon = blacklist ∧
        ∃ token ∈ tokens blacklist, contains token icon) ∨
      tokens (removeUnwantendStatusBarIcon blacklist icon) = tokens blacklist ++ [icon] := by
  cases blacklist with
  | none =>
      right
      have hempty : tokens (some "") = tokens none := by decide
      rw [← hempty, ← tokens_append hicon hcomma, removeUnwantendStatusBarIcon, String.empty_append]
  | some text =>
      rw [removeUnwantendStatusBarIcon]
      split
      · next hcontains =>
          left
          exact ⟨rfl, exists_token hicon hcomma hcontains⟩
      · right
        exact tokens_append hicon hcomma

/-- Whoever puts an icon on the list finds it there the next time. -/
theorem removeUnwanted_idempotent :
    removeUnwantendStatusBarIcon (removeUnwantendStatusBarIcon blacklist icon) icon =
      removeUnwantendStatusBarIcon blacklist icon := by
  have hbehind (text : String) : contains (text ++ "," ++ icon) icon = true := by
    rw [contains_iff, String.toList_append]
    exact (List.suffix_append _ _).isInfix
  cases blacklist with
  | none =>
      have h := hbehind ""
      rw [String.empty_append] at h
      rw [removeUnwantendStatusBarIcon, removeUnwantendStatusBarIcon, if_pos h]
  | some text =>
      rw [removeUnwantendStatusBarIcon]
      split
      · next hcontains => rw [removeUnwantendStatusBarIcon, if_pos hcontains]
      · rw [removeUnwantendStatusBarIcon, if_pos (hbehind text)]

/-- Of an icon that stands alone, nothing is deleted from the others. -/
theorem StandsAlone.deleteAll_token (h : StandsAlone blacklist icon)
    (htoken : token ∈ tokens blacklist) :
    deleteAll token icon = if token = icon then "" else token := by
  split
  · next hsame => rw [hsame, deleteAll_self]
  · next hother =>
      apply deleteAll_of_not_contains
      intro hcontains
      exact hother (h token (mem_icons.mpr htoken) hcontains)

theorem StandsAlone.tokens_addWanted (h : StandsAlone blacklist icon) (hcomma : ',' ∉ icon.toList) :
    tokens (addWantedStatusBarIconIfMissing blacklist icon) =
      (tokens blacklist).filter (· ≠ icon) := by
  rw [addWanted_eq_map]
  cases blacklist with
  | none => rfl
  | some text =>
      rw [Option.map_some, tokens_deleteAll hcomma]
      have hdeleted : ∀ token ∈ tokens (some text),
          token ≠ "" ∧ deleteAll token icon = if token = icon then "" else token := by
        intro token htoken
        exact ⟨ne_empty_of_mem_tokens htoken, h.deleteAll_token htoken⟩
      generalize tokens (some text) = l at hdeleted
      induction l with
      | nil => rfl
      | cons token l ih =>
          obtain ⟨⟨hne, hdelete⟩, hdeleted⟩ := List.forall_mem_cons.mp hdeleted
          rw [List.map_cons, List.filter_cons, List.filter_cons, hdelete, ih hdeleted]
          by_cases hsame : token = icon
          · simp [hsame]
          · simp [hsame, hne]

theorem StandsAlone.inserts (h : StandsAlone blacklist icon) (hicon : icon ≠ "")
    (hcomma : ',' ∉ icon.toList) :
    icons (removeUnwantendStatusBarIcon blacklist icon) = insert icon (icons blacklist) := by
  rcases removeUnwanted_cases blacklist hicon hcomma with
    ⟨hsame, token, htoken, hcontains⟩ | happend
  · -- what seems to be the icon is the icon
    have hmem := mem_icons.mpr htoken
    rw [h token hmem hcontains] at hmem
    rw [hsame, Finset.insert_eq_of_mem hmem]
  · rw [icons, happend, List.toFinset_append, icons]
    simp [Finset.union_comm]

theorem StandsAlone.erases (h : StandsAlone blacklist icon) (hcomma : ',' ∉ icon.toList) :
    icons (addWantedStatusBarIconIfMissing blacklist icon) = (icons blacklist).erase icon := by
  rw [icons, h.tokens_addWanted hcomma, List.toFinset_filter, ← Finset.filter_ne']
  simp [icons]

theorem removeUnwanted_othersStay (hicon : icon ≠ "") (hcomma : ',' ∉ icon.toList) :
    (tokens (removeUnwantendStatusBarIcon blacklist icon)).filter (· ≠ icon) =
      (tokens blacklist).filter (· ≠ icon) := by
  rcases removeUnwanted_cases blacklist hicon hcomma with ⟨hsame, -⟩ | happend
  · rw [hsame]
  · simp [happend]

/-- Nothing is left that could be deleted. -/
theorem StandsAlone.addWanted_idempotent (h : StandsAlone blacklist icon) (hicon : icon ≠ "")
    (hcomma : ',' ∉ icon.toList) :
    addWantedStatusBarIconIfMissing (addWantedStatusBarIconIfMissing blacklist icon) icon =
      addWantedStatusBarIconIfMissing blacklist icon := by
  have htokens := h.tokens_addWanted hcomma
  cases hblacklist : addWantedStatusBarIconIfMissing blacklist icon with
  | none => rfl
  | some text =>
      rw [hblacklist] at htokens
      rw [addWantedStatusBarIconIfMissing, if_neg]
      intro hcontains
      obtain ⟨token, htoken, hcontains⟩ := exists_token hicon hcomma hcontains
      rw [htokens] at htoken
      obtain ⟨htoken, hother⟩ := List.mem_filter.mp htoken
      exact absurd (h token (mem_icons.mpr htoken) hcontains) (by simpa using hother)

/-! ## When the list is a set -/

/-- The longest icon with the name inside its own is shortened, and nothing that is shortened takes
its place. -/
theorem standsAlone_of_erases (hcomma : ',' ∉ icon.toList) (hicon : icon ≠ "")
    (h : icons (addWantedStatusBarIconIfMissing blacklist icon) = (icons blacklist).erase icon) :
    StandsAlone blacklist icon := by
  intro token htoken hcontains
  by_contra hother
  let others := (icons blacklist).filter fun t => contains t icon = true ∧ t ≠ icon
  have hnonempty : others.Nonempty :=
    ⟨token, Finset.mem_filter.mpr ⟨htoken, hcontains, hother⟩⟩
  obtain ⟨longest, hlongest, hmax⟩ := others.exists_max_image String.length hnonempty
  obtain ⟨hmem, hcontains, hother⟩ := Finset.mem_filter.mp hlongest
  have hstays := Finset.mem_erase.mpr ⟨hother, hmem⟩
  rw [← h, mem_icons, addWanted_eq_map] at hstays
  cases blacklist with
  | none => cases hstays
  | some text =>
      rw [Option.map_some, tokens_deleteAll hcomma] at hstays
      obtain ⟨token', htoken', hdeleted⟩ := List.mem_map.mp (List.mem_filter.mp hstays).1
      by_cases hcontains' : contains token' icon = true
      · have hother' : token' ≠ icon := by
          rintro rfl
          rw [deleteAll_self] at hdeleted
          exact ne_empty_of_mem_tokens (mem_icons.mp hmem) hdeleted.symm
        have hle := hmax token' (Finset.mem_filter.mpr ⟨mem_icons.mpr htoken', hcontains', hother'⟩)
        have hlt := length_deleteAll_lt hicon hcontains'
        rw [hdeleted] at hlt
        omega
      · rw [deleteAll_of_not_contains hcontains'] at hdeleted
        exact hcontains' (hdeleted ▸ hcontains)

/-- **To put an icon on the list inserts it into the set of icons there, and to take it off erases
it, if and only if no other icon on the list has the name inside its own.** -/
theorem blacklist_acts_as_set_iff (blacklist : Option String) (icon : String) (hicon : icon ≠ "")
    (hcomma : ',' ∉ icon.toList) :
    ActsAsSet blacklist icon ↔ StandsAlone blacklist icon := by
  constructor
  · intro h
    exact standsAlone_of_erases hcomma hicon h.erases
  · intro h
    refine ⟨h.inserts hicon hcomma, h.erases hcomma, ⟨?_, ?_⟩, ?_, ?_⟩
    · exact removeUnwanted_othersStay hicon hcomma
    · rw [h.tokens_addWanted hcomma, List.filter_filter]
      simp
    · exact removeUnwanted_idempotent
    · exact h.addWanted_idempotent hicon hcomma

/-- The list as it is after the first boot. -/
theorem blacklist_acts_as_set_alarm_clock : ActsAsSet (some ",rotate,bluetooth") "alarm_clock" := by
  apply (blacklist_acts_as_set_iff _ _ (by decide) (by decide)).mpr
  unfold StandsAlone
  decide +kernel

/-- An icon that has the name of another one inside its own. -/
theorem bluetooth_not_on_the_list :
    ¬ ActsAsSet (some "bluetooth_handsfree_battery") "bluetooth" := by
  intro h
  exact absurd h.inserts (by decide +kernel)

end VendorRs.IconBlacklist
