import VendorRs.Boot.Receiver

/-!
# The permissions over many boots

The preference of a package says whether the last boot found it (`Known`). So a boot grants exactly
to the packages that are new since the boot before, and what the user takes away stays away as long
as each boot finds the package. A package that is removed and installed again between two boots is
not new.
-/

namespace VendorRs.Boot

open Java Runs

variable {s s' : State} {e : Event} {p : String} {m : Permission}

def IsBoot (e : Event) : Prop := ∃ drivers, e = .booted drivers

/-- Where permissions come from, and where they go. -/
structure GrantsNew (s s' : State) (e : Event) : Prop where
  onlyNew : ∀ p m, (p, m) ∈ s'.packages.granted →
    (p, m) ∈ s.packages.granted ∨ e = .userGrants p m ∨
      IsBoot e ∧ ByDefault p m ∧ s.packages.Requests p m ∧ s.atLastBoot p = false
  allNew : IsBoot e → ∀ p m, ByDefault p m → s.packages.Requests p m → s.atLastBoot p = false →
    (p, m) ∈ s'.packages.granted
  kept : ∀ p m, (p, m) ∈ s.packages.granted → e ≠ .userRevokes p m → e ≠ .uninstalled p →
    (p, m) ∈ s'.packages.granted

def StepGrantsNew (s : State) (e : Event) : Prop := ∃ s', step s e = .ok s' ∧ GrantsNew s s' e

/-- A package has been dealt with if the last boot found it. -/
def Known (s : State) : Prop :=
  ∀ p ∈ policies.map Prod.fst, s.packages.AlreadyAllowed p ↔ s.atLastBoot p = true

theorem ByDefault.mem (h : ByDefault p m) : p ∈ policies.map Prod.fst := by
  obtain ⟨policy, hmem, rfl, -⟩ := h
  exact List.mem_map_of_mem hmem

/-- What a boot does to the packages. -/
theorem packages_booted (s : State) :
    (onReceive s).packages = onStartup s.packages ∧
      (onReceive s).atLastBoot = isPackageInstalled s.packages := by
  rw [onReceive_eq]
  exact ⟨rfl, rfl⟩

theorem Known.step (h : Known s) (hs' : step s e = .ok s') : Known s' := by
  cases e with
  | booted drivers =>
      cases hs'
      obtain ⟨hpackages, hboot⟩ := packages_booted { s with files := drivers.files }
      obtain ⟨granted, processed, heq, -, hprocessed⟩ := onStartup_granted s.packages
      intro p hp
      rw [hpackages, hboot]
      show (onStartup s.packages).AlreadyAllowed p ↔ isPackageInstalled s.packages p = true
      rw [heq, Packages.AlreadyAllowed]
      show (processed p).getD false = true ↔ _
      rw [hprocessed p hp, Option.getD_some]
  | servicesChosen | buttonSwapChanged | flickerFreeChanged | displayModeChanged
  | ledManagerExtraEnabledChanged | ledAccessChanged | installed | uninstalled | userGrants
  | userRevokes =>
      cases hs'
      exact h

/-- A boot grants to the new packages. -/
theorem Known.granted_booted (h : Known s) (files : Utils.Files) (p : String) (m : Permission) :
    (p, m) ∈ (onReceive { s with files := files }).packages.granted ↔
      (p, m) ∈ s.packages.granted ∨
        ByDefault p m ∧ s.packages.Requests p m ∧ s.atLastBoot p = false := by
  obtain ⟨granted, processed, heq, hgranted, -⟩ := onStartup_granted s.packages
  rw [(packages_booted { s with files := files }).1]
  show (p, m) ∈ (onStartup s.packages).granted ↔ _
  rw [heq]
  show (p, m) ∈ granted ↔ _
  rw [hgranted]
  have hnew (hdefault : ByDefault p m) :
      ¬ s.packages.AlreadyAllowed p ↔ s.atLastBoot p = false := by
    rw [h p hdefault.mem, Bool.not_eq_true]
  constructor
  · refine Or.imp_right ?_
    rintro ⟨hdefault, hrequests, hnot⟩
    exact ⟨hdefault, hrequests, (hnew hdefault).mp hnot⟩
  · refine Or.imp_right ?_
    rintro ⟨hdefault, hrequests, hnot⟩
    exact ⟨hdefault, hrequests, (hnew hdefault).mpr hnot⟩

/-- An event that grants nothing and takes nothing away. -/
theorem grantsNew_of_same (hboot : ¬ IsBoot e)
    (hgranted : s'.packages.granted = s.packages.granted) :
    GrantsNew s s' e where
  onlyNew _ _ h := .inl (hgranted ▸ h)
  allNew h := absurd h hboot
  kept _ _ h _ _ := hgranted ▸ h

theorem Known.grantsNew (h : Known s) (e : Event) : StepGrantsNew s e := by
  cases e with
  | booted drivers =>
      refine ⟨_, rfl, ?_, ?_, ?_⟩
      · intro p m hgranted
        rcases (h.granted_booted drivers.files p m).mp hgranted with hold | hnew
        · exact .inl hold
        · exact .inr (.inr ⟨⟨drivers, rfl⟩, hnew⟩)
      · intro _ p m hdefault hrequests hnew
        exact (h.granted_booted drivers.files p m).mpr (.inr ⟨hdefault, hrequests, hnew⟩)
      · intro p m hold _ _
        exact (h.granted_booted drivers.files p m).mpr (.inl hold)
  | uninstalled packageName =>
      refine ⟨_, rfl, ?_, ?_, ?_⟩
      · intro p m hgranted
        exact .inl (Finset.mem_filter.mp hgranted).1
      · rintro ⟨drivers, h⟩
        cases h
      · intro p m hold _ hne
        refine Finset.mem_filter.mpr ⟨hold, ?_⟩
        simpa [eq_comm] using hne
  | userGrants packageName m' =>
      refine ⟨_, rfl, ?_, ?_, ?_⟩
      · intro p m hgranted
        rcases Finset.mem_insert.mp hgranted with heq | hold
        · cases heq
          exact .inr (.inl rfl)
        · exact .inl hold
      · rintro ⟨drivers, h⟩
        cases h
      · intro p m hold _ _
        exact Finset.mem_insert_of_mem hold
  | userRevokes packageName m' =>
      refine ⟨_, rfl, ?_, ?_, ?_⟩
      · intro p m hgranted
        exact .inl (Finset.mem_of_mem_erase hgranted)
      · rintro ⟨drivers, h⟩
        cases h
      · intro p m hold hne _
        refine Finset.mem_erase.mpr ⟨?_, hold⟩
        rintro ⟨⟩
        exact hne rfl
  | servicesChosen | buttonSwapChanged | flickerFreeChanged | displayModeChanged
  | ledManagerExtraEnabledChanged | ledAccessChanged | installed =>
      refine ⟨_, rfl, grantsNew_of_same ?_ rfl⟩
      rintro ⟨drivers, h⟩
      cases h

theorem known_initial (d : Device) : Known (.initial d) := by
  intro p _
  simp [Packages.AlreadyAllowed, State.initial]

/-- **In every run, a boot grants what is granted by default to exactly the packages that the boot
before did not find; nothing else is granted but by the user, and only the user and the removal of a
package take anything away.** -/
theorem boots_grant_new (d : Device) (es : List Event) :
    EveryStep step StepGrantsNew (.initial d) es := by
  refine EveryStep.imp (P := Known) (C := fun _ _ => True) ?_ ?_ (known_initial d) everyStep_true
  · intro s e s' h _ hs'
    exact h.step hs'
  · intro s e h _
    exact h.grantsNew e

/-! ## What the user takes away -/

/-- A boot finds the package, and the user does not grant it the permission. -/
def FindsPackage (p : String) (m : Permission) (s : State) (e : Event) : Prop :=
  (IsBoot e → isPackageInstalled s.packages p = true) ∧ e ≠ .userGrants p m

def StaysRevoked (p : String) (m : Permission) (s : State) (e : Event) : Prop :=
  ∀ s', step s e = .ok s' → (p, m) ∉ s'.packages.granted

/-- The last boot found the package, which does not have the permission. -/
structure Revoked (p : String) (m : Permission) (s : State) : Prop where
  known : Known s
  atLastBoot : s.atLastBoot p = true
  not_granted : (p, m) ∉ s.packages.granted

theorem Revoked.step (h : Revoked p m s) (hfinds : FindsPackage p m s e)
    (hs' : step s e = .ok s') : Revoked p m s' := by
  refine ⟨h.known.step hs', ?_, ?_⟩
  · cases e with
    | booted drivers =>
        cases hs'
        rw [(packages_booted { s with files := drivers.files }).2]
        exact hfinds.1 ⟨drivers, rfl⟩
    | servicesChosen | buttonSwapChanged | flickerFreeChanged | displayModeChanged
    | ledManagerExtraEnabledChanged | ledAccessChanged | installed | uninstalled | userGrants
    | userRevokes =>
        cases hs'
        exact h.atLastBoot
  · intro hgranted
    obtain ⟨s'', hs'', hnew⟩ := h.known.grantsNew e
    obtain rfl : s' = s'' := Except.ok.inj (hs'.symm.trans hs'')
    rcases hnew.onlyNew p m hgranted with hold | huser | ⟨-, -, -, hnew⟩
    · exact h.not_granted hold
    · exact hfinds.2 huser
    · rw [h.atLastBoot] at hnew
      cases hnew

/-- **What the user takes away stays away**, whatever else happens, as long as each boot finds the
package. -/
theorem revoked_stays (d : Device) (es es' : List Event)
    (hrun : endState step (.initial d) es = .ok s) (hboot : s.atLastBoot p = true)
    (hnot : (p, m) ∉ s.packages.granted) (hfinds : EveryStep step (FindsPackage p m) s es') :
    EveryStep step (StaysRevoked p m) s es' := by
  have hknown : Known s := by
    refine EveryStep.endState (P := Known) (C := fun _ _ => True) ?_ (known_initial d)
      everyStep_true hrun
    intro s e s' h _ hs'
    exact h.step hs'
  refine EveryStep.imp (P := Revoked p m) ?_ ?_ ⟨hknown, hboot, hnot⟩ hfinds
  · intro s e s' h hfind hs'
    exact h.step hfind hs'
  · intro s e h hfind s' hs'
    exact (h.step hfind hs').not_granted

/-- Play services that ask for the camera, on a device without drivers. -/
def playServices : Device where
  services := ⟨[], List.nodup_nil⟩
  requested := fun p => if p = "com.google.android.gms" then some [.camera] else none
  granted := ∅
  drivers := ⟨fun _ => none, by simp⟩

/-- The camera is taken away, and stays away when the package is removed and installed again. -/
theorem revoked_stays_playServices :
    ∃ s, endState step (.initial playServices)
        [.booted playServices.drivers, .userRevokes "com.google.android.gms" .camera] = .ok s ∧
      EveryStep step (StaysRevoked "com.google.android.gms" .camera) s
        [.uninstalled "com.google.android.gms", .installed "com.google.android.gms" [.camera],
          .booted playServices.drivers] := by
  refine ⟨_, rfl, revoked_stays playServices
    [.booted playServices.drivers, .userRevokes "com.google.android.gms" .camera] _ rfl ?_ ?_ ?_⟩
  · decide +kernel
  · decide +kernel
  · refine ⟨⟨?_, nofun⟩, ⟨?_, nofun⟩, ⟨?_, nofun⟩, trivial⟩
    · rintro ⟨drivers, h⟩
      cases h
    · rintro ⟨drivers, h⟩
      cases h
    · intro _
      decide +kernel

end VendorRs.Boot
