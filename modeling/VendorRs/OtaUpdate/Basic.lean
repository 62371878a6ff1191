import VendorRs.Java.Lang

/-!
# Staging an update for the recovery

The OK handler of `SettingsExtraOTAUpdate.startUpdate` goes through the four packages it offers. The
selected ones are copied to where the recovery can read them and named in `/cache/recovery/command`;
the first, too large for the cache, is copied to `/data` instead, and `init` is asked to start
`uncrypt_custom`, which writes a map of the blocks the copy lies in. The handler then waits until
`init.svc.uncrypt_custom` says "stopped". `init` and `uncrypt` go on while it does, and before and
after, so the model has one step for each thing one of the three does, in any order.

`uncrypt` writes its map under another name and renames it once it is complete, so a run that fails
leaves what was there before.
-/

namespace VendorRs.OtaUpdate

open Java

/-! ## Packages -/

/-- What the dialog offers, in the order of its items. -/
inductive Package where
  | update
  | magisk
  | gapps
  | decrypt
  deriving DecidableEq, Repr

def Package.all : List Package := [.update, .magisk, .gapps, .decrypt]

def recoveryPackages : Package → String
  | .update => "--update_package=/cache/recovery/update.zip\n"
  | .magisk => "--update_package=/cache/recovery/magisk.zip\n"
  | .gapps => "--update_package=/cache/recovery/gapps.zip\n"
  | .decrypt => "--update_package=/cache/recovery/decrypt.zip\n"

def recoveryPackagesMap : Package → String
  | .update => "--update_package=@/cache/recovery/update.map\n"
  | .magisk => "--update_package=@/cache/recovery/magisk.map\n"
  | .gapps => "--update_package=@/cache/recovery/gapps.map\n"
  | .decrypt => "--update_package=@/cache/recovery/decrypt.map\n"

def sdcardRecoveryPackages : Package → String
  | .update => "update.zip"
  | .magisk => "magisk.zip"
  | .gapps => "gapps.zip"
  | .decrypt => "decrypt.zip"

def cacheRecoveryMap : Package → String
  | .update => "/cache/recovery/update.map"
  | .magisk => "/cache/recovery/magisk.map"
  | .gapps => "/cache/recovery/gapps.map"
  | .decrypt => "/cache/recovery/decrypt.map"

def cacheRecovery : Package → String
  | .update => "/cache/recovery/update.zip"
  | .magisk => "/cache/recovery/magisk.zip"
  | .gapps => "/cache/recovery/gapps.zip"
  | .decrypt => "/cache/recovery/decrypt.zip"

def tempDataPrefix : String := "/data/cache/"

/-- `origin_file`. -/
def originFile (i : Package) : String := "/sdcard/" ++ sdcardRecoveryPackages i

/-- `dest_file`. -/
def destFile : Package → String
  | .update => tempDataPrefix ++ sdcardRecoveryPackages .update
  | i => cacheRecovery i

/-- What a selected package adds to `command_string`. -/
def commandLine : Package → String
  | .update => recoveryPackagesMap .update
  | i => recoveryPackages i

/-! ## The device -/

/-- Who a file is from: somebody before the handler was called, or this call of it, by a copy it
made or by the run of `uncrypt` it asked for. -/
inductive Origin where
  | earlier
  | invocation
  deriving DecidableEq, Repr

/-- A run of `uncrypt`. -/
structure Run where
  /-- Whose request it was started for. -/
  origin : Origin
  /-- Where the map goes, as `sys.update_package.map` said at the start. -/
  map : String
  /-- The map is in its place. -/
  mapped : Bool
  deriving DecidableEq, Repr

/-- Where the handler is: what its next step does. -/
inductive Pc where
  | deleteMap (i : Package)
  | checkOrigin (i : Package)
  | deleteDest (i : Package)
  | copy (i : Package)
  | setOta
  | setMap
  | start
  | poll
  | command
  | reboot
  | returned
  | rebooted
  deriving DecidableEq, Repr

structure Sys where
  checkedItems : Package → Bool
  pc : Pc
  commandString : String
  /-- The variable `reboot`. -/
  rebootWanted : Bool
  files : String → Option Origin
  /-- What this call wrote to `/cache/recovery/command`. -/
  command : Option String
  /-- The property `sys.update_package.ota`. -/
  ota : String
  /-- The property `sys.update_package.map`. -/
  map : String
  /-- The property `init.svc.uncrypt_custom`. -/
  svc : String
  /-- The requests to start `uncrypt_custom` that `init` has not come to yet, oldest first. -/
  pending : List Origin
  running : Option Run
  /-- The runs so far whose map got into its place. -/
  mapped : List Origin

/-- The user clicks OK. What was there before may come from an earlier call, one that returned after
it had sent its request included: files, properties, requests and a run. -/
def Sys.clicked (checkedItems : Package → Bool) (present : String → Bool) (usedBefore : Bool)
    (svc : String) (pendingBefore : Nat) (runningBefore : Option Bool) : Sys where
  checkedItems := checkedItems
  pc := .deleteMap .update
  commandString := ""
  rebootWanted := false
  files := fun path => if present path then some .earlier else none
  command := none
  ota := if usedBefore then destFile .update else ""
  map := if usedBefore then cacheRecoveryMap .update else ""
  svc := svc
  pending := List.replicate pendingBefore .earlier
  running := runningBefore.map fun mapped => ⟨.earlier, cacheRecoveryMap .update, mapped⟩
  mapped := []

/-! ## The handler -/

/-- What becomes of a file operation. -/
inductive Io where
  | done
  | failed
  /-- A copy that broke off. -/
  | partly
  deriving DecidableEq, Repr

/-- Nothing to do. -/
inductive Stuck where
  | notEnabled
  deriving DecidableEq, Repr

def Sys.setFile (s : Sys) (path : String) (file : Option Origin) : Sys :=
  { s with files := fun p => if p = path then file else s.files p }

/-- `exists` and `delete`; whether it worked is not looked at. -/
def Sys.delete (s : Sys) (path : String) (io : Io) : Sys :=
  s.setFile path (if io = .done then none else s.files path)

/-- The next package's turn, or the end of the loop. -/
def Pc.after : Package → Pc
  | .update => .deleteMap .magisk
  | .magisk => .deleteMap .gapps
  | .gapps => .deleteMap .decrypt
  | .decrypt => .command

/-- The end of the loop's body; `reboot` is set whether the package was selected or not. -/
def Sys.next (s : Sys) (i : Package) : Sys := { s with rebootWanted := true, pc := .after i }

/-- The package is staged. -/
def Sys.append (s : Sys) (i : Package) : Sys :=
  { s with commandString := s.commandString ++ commandLine i }

/-- `copy(origin_file, dest_file)` and what follows it. -/
def Sys.copy (s : Sys) (i : Package) : Io → Sys
  | .done =>
      let s := s.setFile (destFile i) (some .invocation)
      if i = .update then { s with pc := .setOta } else (s.append i).next i
  | .failed => { s with pc := .returned }
  | .partly => { s.setFile (destFile i) (some .invocation) with pc := .returned }

/-- The next step of the handler. -/
def handlerStep (s : Sys) (io : Io) : Except Stuck Sys :=
  match s.pc with
  | .deleteMap i =>
      let s := s.delete (cacheRecoveryMap i) io
      .ok (if s.checkedItems i then { s with pc := .checkOrigin i } else s.next i)
  | .checkOrigin i =>
      .ok { s with pc := if (s.files (originFile i)).isSome then .deleteDest i else .returned }
  | .deleteDest i => .ok { s.delete (destFile i) io with pc := .copy i }
  | .copy i => .ok (s.copy i io)
  | .setOta => .ok { s with ota := destFile .update, pc := .setMap }
  | .setMap => .ok { s with map := cacheRecoveryMap .update, pc := .start }
  | .start => .ok { s with pending := s.pending ++ [.invocation], pc := .poll }
  | .poll => .ok (if contains s.svc "stopped" then (s.append .update).next .update else s)
  | .command =>
      .ok (if s.rebootWanted then
          { s.setFile "/cache/recovery/command" (some .invocation) with
            command := some s.commandString, pc := .reboot }
        else { s with pc := .returned })
  | .reboot => .ok { s with pc := .rebooted }
  | .returned | .rebooted => .error .notEnabled

/-! ## `init` and `uncrypt` -/

/-- `init` comes to the oldest request. A service that runs is not started again. -/
def initStep (s : Sys) : Except Stuck Sys :=
  match s.pending with
  | [] => .error .notEnabled
  | origin :: pending =>
      match s.running with
      | some _ => .ok { s with pending := pending }
      | none =>
          .ok { s with
            pending := pending
            running := some ⟨origin, s.map, false⟩
            svc := "running" }

/-- The run renames its map, which is complete. -/
def uncryptMaps (s : Sys) : Except Stuck Sys :=
  match s.running with
  | some run =>
      if run.mapped then .error .notEnabled
      else
        .ok { s.setFile run.map (some run.origin) with
          running := some { run with mapped := true }
          mapped := run.origin :: s.mapped }
  | none => .error .notEnabled

/-- The run ends, with its map in place or not. -/
def uncryptExits (s : Sys) : Except Stuck Sys :=
  match s.running with
  | some _ => .ok { s with running := none, svc := "stopped" }
  | none => .error .notEnabled

inductive Event where
  | handler (io : Io)
  | init
  | uncryptMaps
  | uncryptExits
  deriving DecidableEq, Repr

def step (s : Sys) : Event → Except Stuck Sys
  | .handler io => handlerStep s io
  | .init => initStep s
  | .uncryptMaps => OtaUpdate.uncryptMaps s
  | .uncryptExits => OtaUpdate.uncryptExits s

/-! ## The command file -/

/-- The package that a line of the command file names. An `@` says that the path is a map's. -/
def packagePath (line : String) : Option String :=
  if startsWith line "--update_package=" then
    match line.toList.drop "--update_package=".length with
    | '@' :: path => some (String.ofList path)
    | path => some (String.ofList path)
  else none

def packagePaths (command : String) : List String := (readLines command).filterMap packagePath

/-- Where the recovery will look for a package. -/
def stagedPath : Package → String
  | .update => cacheRecoveryMap .update
  | i => cacheRecovery i

/-- `command_string` after the packages `l`. -/
def commandText (checkedItems : Package → Bool) (l : List Package) : String :=
  String.join ((l.filter checkedItems).map commandLine)

theorem packagePaths_commandLine (i : Package) (rest : String) :
    packagePaths (commandLine i ++ rest) = stagedPath i :: packagePaths rest := by
  obtain ⟨line, hline, hchars, hpath⟩ : ∃ line, commandLine i = line ++ "\n" ∧
      (line.toList.all fun c => c ≠ '\n' ∧ c ≠ '\r') = true ∧
      packagePath line = some (stagedPath i) := by
    cases i with
    | update => exact ⟨"--update_package=@/cache/recovery/update.map", by decide +kernel⟩
    | magisk => exact ⟨"--update_package=/cache/recovery/magisk.zip", by decide +kernel⟩
    | gapps => exact ⟨"--update_package=/cache/recovery/gapps.zip", by decide +kernel⟩
    | decrypt => exact ⟨"--update_package=/cache/recovery/decrypt.zip", by decide +kernel⟩
  have hchars : ∀ c ∈ line.toList, c ≠ '\n' ∧ c ≠ '\r' := by simpa using hchars
  rw [packagePaths, hline, readLines_line hchars, List.filterMap_cons_some hpath, packagePaths]

/-- The command names the packages selected, each where it is staged. -/
theorem packagePaths_commandText (checkedItems : Package → Bool) (l : List Package) :
    packagePaths (commandText checkedItems l) = (l.filter checkedItems).map stagedPath := by
  rw [commandText]
  induction l.filter checkedItems with
  | nil => rfl
  | cons i l ih => rw [List.map_cons, String.join_cons, packagePaths_commandLine, ih, List.map_cons]

end VendorRs.OtaUpdate
