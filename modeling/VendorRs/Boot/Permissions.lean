import Mathlib.Data.Finset.Basic
import VendorRs.Java.Lang

/-!
# The permissions granted by default

At every boot `DefaultPermissionGrantPolicyExtra` goes through a few packages and grants each the
permissions it is known to need. A preference keeps it from doing so again, since the user may have
taken a permission away; it is cleared at a boot that does not find the package.

So what counts is whether the package was there at the boot before (`onStartup_granted`).
-/

namespace VendorRs.Boot

inductive Permission where
  | readPhoneState
  | callPhone
  | readCallLog
  | writeCallLog
  | addVoicemail
  | useSip
  | processOutgoingCalls
  | readContacts
  | writeContacts
  | getAccounts
  | accessFineLocation
  | accessCoarseLocation
  | accessBackgroundLocation
  | readCalendar
  | writeCalendar
  | sendSms
  | receiveSms
  | readSms
  | receiveWapPush
  | receiveMms
  | readCellBroadcasts
  | recordAudio
  | camera
  | bodySensors
  | readExternalStorage
  | writeExternalStorage
  | accessMediaLocation
  deriving DecidableEq, Repr

def phonePermissions : List Permission :=
  [.readPhoneState, .callPhone, .readCallLog, .writeCallLog, .addVoicemail, .useSip,
    .processOutgoingCalls]

def contactsPermissions : List Permission := [.readContacts, .writeContacts, .getAccounts]

def alwaysLocationPermissions : List Permission :=
  [.accessFineLocation, .accessCoarseLocation, .accessBackgroundLocation]

def calendarPermissions : List Permission := [.readCalendar, .writeCalendar]

def smsPermissions : List Permission :=
  [.sendSms, .receiveSms, .readSms, .receiveWapPush, .receiveMms, .readCellBroadcasts]

def microphonePermissions : List Permission := [.recordAudio]

def cameraPermissions : List Permission := [.camera]

def sensorsPermissions : List Permission := [.bodySensors]

def storagePermissions : List Permission :=
  [.readExternalStorage, .writeExternalStorage, .accessMediaLocation]

/-- The packages in the order of `onStartup`, each with what it is granted. -/
def policies : List (String × List Permission) :=
  [("com.google.android.googlequicksearchbox",
      calendarPermissions ++ cameraPermissions ++ contactsPermissions ++
        alwaysLocationPermissions ++ microphonePermissions ++ phonePermissions ++ smsPermissions ++
        storagePermissions),
    ("com.google.android.gms",
      sensorsPermissions ++ calendarPermissions ++ cameraPermissions ++ contactsPermissions ++
        alwaysLocationPermissions ++ microphonePermissions ++ phonePermissions ++ smsPermissions ++
        storagePermissions),
    ("com.google.android.syncadapters.contacts", contactsPermissions),
    ("com.google.android.gsf", phonePermissions),
    ("com.google.android.setupwizard",
      contactsPermissions ++ phonePermissions ++ alwaysLocationPermissions ++ cameraPermissions),
    ("com.android.vending",
      contactsPermissions ++ phonePermissions ++ alwaysLocationPermissions ++ smsPermissions ++
        storagePermissions),
    ("com.android.contacts", storagePermissions)]

structure Packages where
  /-- What each installed package asks for. -/
  requested : String → Option (List Permission)
  granted : Finset (String × Permission)
  /-- The preference `packageName + "_processed"`, by package. -/
  processed : String → Option Bool

variable {s : Packages} {packageName p : String} {m : Permission}

def isPackageInstalled (s : Packages) (targetPackage : String) : Bool :=
  (s.requested targetPackage).isSome

/-- The package asks for the permission. -/
def Packages.Requests (s : Packages) (packageName : String) (m : Permission) : Prop :=
  ∃ permissions ∈ s.requested packageName, m ∈ permissions

instance : Decidable (s.Requests packageName m) :=
  inferInstanceAs (Decidable (∃ permissions ∈ s.requested packageName, m ∈ permissions))

/-- A permission that the package does not ask for is a `SecurityException`, which is caught. -/
def mGrantRuntimePermission (packageName : String) (s : Packages) (m : Permission) : Packages :=
  if s.Requests packageName m then { s with granted := insert (packageName, m) s.granted } else s

def Packages.putProcessed (s : Packages) (packageName : String) (value : Bool) : Packages :=
  { s with processed := Function.update s.processed packageName (some value) }

/-- What `onStartup` does for one package. -/
def grantPermissions (s : Packages) (policy : String × List Permission) : Packages :=
  let (packageName, permissions) := policy
  let permissions_already_allowed := (s.processed packageName).getD false
  let is_package_installed := isPackageInstalled s packageName
  if is_package_installed && !permissions_already_allowed then
    (permissions.foldl (mGrantRuntimePermission packageName) s).putProcessed packageName true
  else if !is_package_installed then
    s.putProcessed packageName false
  else
    s

/-- `DefaultPermissionGrantPolicyExtra.onStartup`. -/
def onStartup (s : Packages) : Packages := policies.foldl grantPermissions s

/-- Whether the package is to have the permission by default. -/
def ByDefault (packageName : String) (m : Permission) : Prop :=
  ∃ policy ∈ policies, policy.1 = packageName ∧ m ∈ policy.2

instance : Decidable (ByDefault packageName m) :=
  inferInstanceAs (Decidable (∃ policy ∈ policies, policy.1 = packageName ∧ m ∈ policy.2))

/-- The preference says that the package has been dealt with. -/
def Packages.AlreadyAllowed (s : Packages) (packageName : String) : Prop :=
  (s.processed packageName).getD false = true

instance : Decidable (s.AlreadyAllowed packageName) :=
  inferInstanceAs (Decidable ((s.processed packageName).getD false = true))

/-! ## What `onStartup` does

Each package is dealt with on its own, since the list names each once. -/

/-- Only what is granted changes. -/
theorem foldl_grant (packageName : String) (permissions : List Permission) (s : Packages) :
    ∃ granted, permissions.foldl (mGrantRuntimePermission packageName) s =
        { s with granted := granted } ∧
      ∀ p m, (p, m) ∈ granted ↔ (p, m) ∈ s.granted ∨
        p = packageName ∧ m ∈ permissions ∧ s.Requests packageName m := by
  induction permissions generalizing s with
  | nil => exact ⟨s.granted, rfl, by simp⟩
  | cons m' permissions ih =>
      rw [List.foldl_cons, mGrantRuntimePermission]
      by_cases hrequests : s.Requests packageName m'
      · rw [if_pos hrequests]
        obtain ⟨granted, heq, hgranted⟩ :=
          ih { s with granted := insert (packageName, m') s.granted }
        refine ⟨granted, heq, ?_⟩
        intro p m
        rw [hgranted, Finset.mem_insert, Prod.mk.injEq, List.mem_cons]
        constructor
        · rintro ((⟨rfl, rfl⟩ | hold) | ⟨hp, hm, hrequests'⟩)
          · exact .inr ⟨rfl, .inl rfl, hrequests⟩
          · exact .inl hold
          · exact .inr ⟨hp, .inr hm, hrequests'⟩
        · rintro (hold | ⟨hp, rfl | hm, hrequests'⟩)
          · exact .inl (.inr hold)
          · exact .inl (.inl ⟨hp, rfl⟩)
          · exact .inr ⟨hp, hm, hrequests'⟩
      · rw [if_neg hrequests]
        obtain ⟨granted, heq, hgranted⟩ := ih s
        refine ⟨granted, heq, ?_⟩
        intro p m
        rw [hgranted, List.mem_cons]
        constructor
        · exact Or.imp_right fun ⟨hp, hm, hrequests'⟩ => ⟨hp, .inr hm, hrequests'⟩
        · rintro (hold | ⟨hp, rfl | hm, hrequests'⟩)
          · exact .inl hold
          · exact absurd hrequests' hrequests
          · exact .inr ⟨hp, hm, hrequests'⟩

theorem Packages.Requests.isPackageInstalled (h : s.Requests p m) :
    isPackageInstalled s p = true := by
  obtain ⟨permissions, hpermissions, -⟩ := h
  rw [Boot.isPackageInstalled, hpermissions]
  rfl

theorem grantPermissions_eq (s : Packages) (policy : String × List Permission) :
    ∃ granted, grantPermissions s policy = { s with
        granted := granted
        processed := Function.update s.processed policy.1
          (some (isPackageInstalled s policy.1)) } ∧
      ∀ p m, (p, m) ∈ granted ↔ (p, m) ∈ s.granted ∨
        p = policy.1 ∧ m ∈ policy.2 ∧ s.Requests p m ∧ ¬ s.AlreadyAllowed p := by
  obtain ⟨packageName, permissions⟩ := policy
  dsimp only
  unfold grantPermissions
  dsimp only
  cases hinstalled : isPackageInstalled s packageName with
  | false =>
      refine ⟨s.granted, by simp [Packages.putProcessed], ?_⟩
      intro p m
      refine ⟨.inl, ?_⟩
      rintro (hold | ⟨rfl, -, hrequests, -⟩)
      · exact hold
      · rw [hrequests.isPackageInstalled] at hinstalled
        cases hinstalled
  | true =>
      by_cases hallowed : s.AlreadyAllowed packageName
      · have hprocessed : s.processed packageName = some true := by
          cases h : s.processed packageName with
          | none => simp [Packages.AlreadyAllowed, h] at hallowed
          | some value => simpa [Packages.AlreadyAllowed, h] using hallowed
        refine ⟨s.granted, ?_, ?_⟩
        · rw [← hprocessed, Function.update_eq_self]
          simp [hprocessed]
        · intro p m
          refine ⟨.inl, ?_⟩
          rintro (hold | ⟨rfl, -, -, hnot⟩)
          · exact hold
          · exact absurd hallowed hnot
      · have hprocessed : (s.processed packageName).getD false = false := by
          simpa [Packages.AlreadyAllowed] using hallowed
        obtain ⟨granted, heq, hgranted⟩ := foldl_grant packageName permissions s
        refine ⟨granted, by simp [hprocessed, heq, Packages.putProcessed], ?_⟩
        intro p m
        rw [hgranted]
        constructor
        · refine Or.imp_right ?_
          rintro ⟨rfl, hm, hrequests⟩
          exact ⟨rfl, hm, hrequests, hallowed⟩
        · refine Or.imp_right ?_
          rintro ⟨rfl, hm, hrequests, -⟩
          exact ⟨rfl, hm, hrequests⟩

theorem foldl_grantPermissions {policies : List (String × List Permission)}
    (hnodup : (policies.map Prod.fst).Nodup) (s : Packages) :
    ∃ granted processed, policies.foldl grantPermissions s =
        { s with granted := granted, processed := processed } ∧
      (∀ p m, (p, m) ∈ granted ↔ (p, m) ∈ s.granted ∨
        (∃ policy ∈ policies, policy.1 = p ∧ m ∈ policy.2) ∧ s.Requests p m ∧
          ¬ s.AlreadyAllowed p) ∧
      ∀ p, processed p = if p ∈ policies.map Prod.fst then some (isPackageInstalled s p)
        else s.processed p := by
  induction policies generalizing s with
  | nil => exact ⟨s.granted, s.processed, rfl, by simp, by simp⟩
  | cons policy policies ih =>
      rw [List.map_cons, List.nodup_cons] at hnodup
      obtain ⟨hnew, hnodup⟩ := hnodup
      obtain ⟨granted₁, heq₁, hgranted₁⟩ := grantPermissions_eq s policy
      obtain ⟨granted, processed, heq, hgranted, hprocessed⟩ := ih hnodup
        { s with
          granted := granted₁
          processed := Function.update s.processed policy.1 (some (isPackageInstalled s policy.1)) }
      rw [List.foldl_cons, heq₁]
      refine ⟨granted, processed, heq, ?_, ?_⟩
      · intro p m
        rw [hgranted, hgranted₁]
        -- the packages behind this one are others, whose preference is as it was
        have hother (hp : ∃ policy ∈ policies, policy.1 = p ∧ m ∈ policy.2) : p ≠ policy.1 := by
          obtain ⟨policy', hmem, rfl, -⟩ := hp
          intro heq
          exact hnew (heq ▸ List.mem_map_of_mem hmem)
        have hsame (hp : ∃ policy ∈ policies, policy.1 = p ∧ m ∈ policy.2) :
            ((Function.update s.processed policy.1
              (some (isPackageInstalled s policy.1))) p).getD false = true ↔
            s.AlreadyAllowed p := by
          rw [Function.update_of_ne (hother hp)]
          rfl
        constructor
        · rintro ((hold | ⟨rfl, hm, hrequests, hnot⟩) | ⟨hp, hrequests, hnot⟩)
          · exact .inl hold
          · exact .inr ⟨⟨policy, List.mem_cons_self, rfl, hm⟩, hrequests, hnot⟩
          · obtain ⟨policy', hmem, hname, hm⟩ := id hp
            refine .inr ⟨⟨policy', List.mem_cons_of_mem _ hmem, hname, hm⟩, hrequests, ?_⟩
            exact fun h => hnot ((hsame hp).mpr h)
        · rintro (hold | ⟨⟨policy', hmem, hname, hm⟩, hrequests, hnot⟩)
          · exact .inl (.inl hold)
          · rcases List.mem_cons.mp hmem with rfl | hmem
            · exact .inl (.inr ⟨hname.symm, hm, hrequests, hnot⟩)
            · have hp : ∃ policy ∈ policies, policy.1 = p ∧ m ∈ policy.2 :=
                ⟨policy', hmem, hname, hm⟩
              exact .inr ⟨hp, hrequests, fun h => hnot ((hsame hp).mp h)⟩
      · intro p
        rw [hprocessed]
        simp only [List.map_cons, List.mem_cons]
        by_cases hmem : p ∈ policies.map Prod.fst
        · rw [if_pos hmem, if_pos (.inr hmem)]
          rfl
        · rw [if_neg hmem]
          by_cases hp : p = policy.1
          · subst hp
            rw [if_pos (.inl rfl)]
            exact Function.update_self _ _ _
          · rw [if_neg (not_or.mpr ⟨hp, hmem⟩)]
            exact Function.update_of_ne hp _ _

/-- A boot grants what is granted by default, to the packages that have not been dealt with; and it
takes down which ones are there. -/
theorem onStartup_granted (s : Packages) :
    ∃ granted processed, onStartup s = { s with granted := granted, processed := processed } ∧
      (∀ p m, (p, m) ∈ granted ↔ (p, m) ∈ s.granted ∨
        ByDefault p m ∧ s.Requests p m ∧ ¬ s.AlreadyAllowed p) ∧
      ∀ p ∈ policies.map Prod.fst, processed p = some (isPackageInstalled s p) := by
  have hnodup : (policies.map Prod.fst).Nodup := by decide +kernel
  obtain ⟨granted, processed, heq, hgranted, hprocessed⟩ := foldl_grantPermissions hnodup s
  refine ⟨granted, processed, heq, hgranted, ?_⟩
  intro p hp
  rw [hprocessed, if_pos hp]

end VendorRs.Boot
