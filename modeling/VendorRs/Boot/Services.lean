import VendorRs.Boot.Receiver

/-!
# The accessibility services

The list of the services is a text with colons between them. A boot looks for `MainService` anywhere
in the text and puts it behind the others if it is not found. So it is on the list after a boot
unless another service has its name inside its own, and it is never on the list twice.

`names` reads the list; each step of a device is a step on the names (`names_step`).
-/

namespace VendorRs.Boot

open Java Runs

variable {s s' : State} {e : Event} {text name : String}

/-- The services on the list, in order. Nothing between two colons is no service. -/
def names : Option String → List String
  | none => []
  | some text => ((text.toList.splitOn ':').map String.ofList).filter (· ≠ "")

/-- What a boot does to the services. -/
def enabled (names : List String) : List String :=
  if ∃ name ∈ names, contains name mainServiceString then names else names ++ [mainServiceString]

/-- What a step does to them. -/
def nextNames (names : List String) : Event → List String
  | .booted _ => enabled names
  | .servicesChosen chosen => chosen.list.map ServiceName.text
  | _ => names

theorem contains_iff {part : String} : contains text part = true ↔ part.toList <:+: text.toList :=
  decide_eq_true_iff

theorem contains_self (text : String) : contains text text = true :=
  contains_iff.mpr (List.infix_refl _)

theorem mainServiceString_ok :
    mainServiceString.toList ≠ [] ∧ ':' ∉ mainServiceString.toList := by
  decide +kernel

/-! ## Reading the list -/

theorem names_append (hname : name.toList ≠ []) (hcolon : ':' ∉ name.toList) :
    names (some (text ++ ":" ++ name)) = names (some text) ++ [name] := by
  have hne : name ≠ "" := by
    rintro rfl
    exact hname rfl
  have hsplit : (text ++ ":" ++ name).toList.splitOn ':' =
      text.toList.splitOn ':' ++ [name.toList] := by
    have hchars : (text ++ ":" ++ name).toList = text.toList ++ ':' :: name.toList := by simp
    rw [hchars, List.splitOn_append_cons_self, List.splitOn_eq_singleton hcolon]
  simp only [names, hsplit, List.map_append, List.filter_append]
  simp [hne]

theorem names_singleton (hname : name.toList ≠ []) (hcolon : ':' ∉ name.toList) :
    names (some name) = [name] := by
  have hne : name ≠ "" := by
    rintro rfl
    exact hname rfl
  simp [names, List.splitOn_eq_singleton hcolon, hne]

/-- A name is found in the text exactly when it is found in a service. -/
theorem contains_text_iff (hname : name.toList ≠ []) (hcolon : ':' ∉ name.toList) :
    contains text name = true ↔ ∃ service ∈ names (some text), contains service name := by
  constructor
  · intro h
    obtain ⟨field, hfield, hinfix⟩ := Fields.exists_infix_splitOn hname hcolon (contains_iff.mp h)
    have hne : field ≠ [] := by
      rintro rfl
      exact hname (List.infix_nil.mp hinfix)
    refine ⟨String.ofList field, ?_, contains_iff.mpr (by rwa [String.toList_ofList])⟩
    apply List.mem_filter.mpr
    exact ⟨List.mem_map_of_mem hfield, by simpa using hne⟩
  · rintro ⟨service, hservice, h⟩
    obtain ⟨field, hfield, rfl⟩ := List.mem_map.mp (List.mem_filter.mp hservice).1
    rw [contains_iff, String.toList_ofList] at h
    exact contains_iff.mpr (h.trans (Fields.infix_of_mem_splitOn hfield))

/-- What is written can be read. -/
theorem names_joined (chosen : Services) :
    names (some chosen.joined) = chosen.list.map ServiceName.text := by
  obtain ⟨list, -⟩ := chosen
  cases list with
  | nil => rfl
  | cons first rest =>
      have hsplit : (":".intercalate ((first :: rest).map ServiceName.text)).toList.splitOn ':' =
          ((first :: rest).map ServiceName.text).map String.toList := by
        rw [String.toList_intercalate]
        apply List.splitOn_intercalate
        · intro field hfield
          obtain ⟨name, hname, rfl⟩ := List.mem_map.mp hfield
          obtain ⟨service, -, rfl⟩ := List.mem_map.mp hname
          exact service.no_colon
        · simp
      have hnames : (((first :: rest).map ServiceName.text).map String.toList).map String.ofList =
          (first :: rest).map ServiceName.text := by
        simp [Function.comp_def]
      rw [Services.joined, names, hsplit, hnames, List.filter_eq_self]
      intro name hname
      obtain ⟨service, -, rfl⟩ := List.mem_map.mp hname
      simpa using service.ne_empty

/-- What a boot writes is what it does to the services. -/
theorem names_enableMainService (services : Option String) :
    names (some (enableMainService services)) = enabled (names services) := by
  obtain ⟨hne, hcolon⟩ := mainServiceString_ok
  cases services with
  | none => exact names_singleton hne hcolon
  | some text =>
      rw [enableMainService]
      by_cases hempty : text = ""
      · subst hempty
        exact names_singleton hne hcolon
      · rw [if_pos hempty, enabled]
        by_cases hmem : ∃ service ∈ names (some text), contains service mainServiceString
        · rw [if_pos hmem, if_pos ((contains_text_iff hne hcolon).mpr hmem)]
        · rw [if_neg hmem, if_neg (fun h => hmem ((contains_text_iff hne hcolon).mp h))]
          exact names_append hne hcolon

/-! ## Steps and runs -/

theorem names_initial (d : Device) :
    names (State.initial d).services = d.services.list.map ServiceName.text := by
  have hjoined := names_joined d.services
  rw [State.initial]
  dsimp only
  split
  · next hempty =>
    rw [List.isEmpty_iff.mp hempty]
    rfl
  · exact hjoined

/-- Each step of the device is the one on the names. -/
theorem names_step (h : step s e = .ok s') :
    names s'.services = nextNames (names s.services) e := by
  cases e with
  | booted drivers =>
      cases h
      rw [onReceive_eq]
      exact names_enableMainService s.services
  | servicesChosen chosen =>
      cases h
      exact names_joined chosen
  | buttonSwapChanged | flickerFreeChanged | displayModeChanged | ledManagerExtraEnabledChanged
  | ledAccessChanged | installed | uninstalled | userGrants | userRevokes =>
      cases h
      rfl

/-- The services other than `MainService`. -/
def others (names : List String) : List String := names.filter (· ≠ mainServiceString)

/-- What a step should do to the services: a boot enables `MainService`, nothing is enabled twice,
and the others are as the user chose them. -/
structure StepRight (names names' : List String) (e : Event) : Prop where
  enabled : ∀ drivers, e = .booted drivers → mainServiceString ∈ names'
  nodup : names'.Nodup
  others : others names' = match e with
    | .servicesChosen chosen => others (chosen.list.map ServiceName.text)
    | _ => others names

def ServicesRight (s : State) (e : Event) : Prop :=
  ∀ s', step s e = .ok s' → StepRight (names s.services) (names s'.services) e

/-- A boot takes another service for `MainService`. -/
def TakesOther (s : State) : Event → Prop
  | .booted _ => mainServiceString ∉ names s.services ∧
      ∃ name ∈ names s.services, contains name mainServiceString
  | _ => False

section Enabled

variable {names : List String}

theorem not_mem_of_not_contains
    (h : ¬ ∃ name ∈ names, contains name mainServiceString) : mainServiceString ∉ names := by
  intro hmem
  exact h ⟨mainServiceString, hmem, contains_self _⟩

theorem mem_enabled_iff :
    mainServiceString ∈ enabled names ↔
      ¬ (mainServiceString ∉ names ∧ ∃ name ∈ names, contains name mainServiceString) := by
  unfold enabled
  split
  · next hfound =>
    exact ⟨fun hmem hnot => hnot.1 hmem, fun h => by_contra fun hmem => h ⟨hmem, hfound⟩⟩
  · next hfound => exact iff_of_true (by simp) fun hnot => hfound hnot.2

theorem nodup_enabled (h : names.Nodup) : (enabled names).Nodup := by
  unfold enabled
  split
  · exact h
  · next hfound => exact List.nodup_append.mpr ⟨h, List.nodup_singleton _, by
      rintro name hname other hother rfl
      rw [List.mem_singleton.mp hother] at hname
      exact not_mem_of_not_contains hfound hname⟩

theorem others_enabled : others (enabled names) = others names := by
  unfold enabled
  split
  · rfl
  · simp [others]

end Enabled

theorem servicesRight_iff (h : (names s.services).Nodup) (e : Event) :
    ServicesRight s e ↔ ¬ TakesOther s e := by
  have hstep : ∃ s', step s e = .ok s' := by cases e <;> exact ⟨_, rfl⟩
  obtain ⟨s', hs'⟩ := hstep
  have hright : ServicesRight s e ↔ StepRight (names s.services) (names s'.services) e := by
    constructor
    · intro hall
      exact hall s' hs'
    · rintro hright s'' hs''
      rwa [← Except.ok.inj (hs'.symm.trans hs'')]
  rw [hright, names_step hs']
  cases e with
  | booted drivers =>
      constructor
      · intro hright
        exact mem_enabled_iff.mp (hright.enabled drivers rfl)
      · intro hnot
        exact ⟨fun _ _ => mem_enabled_iff.mpr hnot, nodup_enabled h, others_enabled⟩
  | servicesChosen chosen =>
      exact iff_of_true ⟨nofun, chosen.nodup, rfl⟩ not_false
  | buttonSwapChanged | flickerFreeChanged | displayModeChanged | ledManagerExtraEnabledChanged
  | ledAccessChanged | installed | uninstalled | userGrants | userRevokes =>
      exact iff_of_true ⟨nofun, h, rfl⟩ not_false

theorem nodup_step (h : (names s.services).Nodup) (hs' : step s e = .ok s') :
    (names s'.services).Nodup := by
  rw [names_step hs']
  cases e with
  | booted drivers => exact nodup_enabled h
  | servicesChosen chosen => exact chosen.nodup
  | buttonSwapChanged | flickerFreeChanged | displayModeChanged | ledManagerExtraEnabledChanged
  | ledAccessChanged | installed | uninstalled | userGrants | userRevokes => exact h

/-- **Every boot enables `MainService`, once, and leaves the other services as the user chose them,
exactly when no boot finds its name inside that of another service while it is not on the list.** -/
theorem services_right_iff (d : Device) (es : List Event) :
    EveryStep step ServicesRight (.initial d) es ↔
      EveryStep step (fun s e => ¬ TakesOther s e) (.initial d) es := by
  refine everyStep_iff (P := fun s => (names s.services).Nodup) (B := fun _ _ => True) ?_ ?_ ?_
    everyStep_true
  · intro s e s' h _ _ hs'
    exact nodup_step h hs'
  · intro s e h _
    exact servicesRight_iff h e
  · show (names (State.initial d).services).Nodup
    rw [names_initial]
    exact d.services.nodup

end VendorRs.Boot
