import Mathlib.Data.Char
import VendorRs.Lib.Fields
import VendorRs.Lib.Paths
import VendorRs.Lib.FileTree

/-!
# A build command in a sandbox

`sbox_lineage` runs one build command in a fresh directory and then moves the outputs it declares
from there to the output root. The order is the whole point: the output root is emptied first, the
command writes to the sandbox only, and nothing is moved before every output is there.

The command itself is whatever `bash` makes of its text, a parameter. So are the clock, the names
`ioutil.TempDir` tries, and the parser of depfiles, which is a package of its own.

The tree has no symbolic links and no permissions, so a system call fails for nothing but what is at
the positions it is given. A path is followed by its names alone: of a `..` behind a name that is
not there the model knows nothing.
-/

namespace VendorRs.Sbox

open Paths FileTree

structure File where
  content : String
  mtime : Nat
  deriving DecidableEq, Repr

abbrev Tree := FileTree Name File

structure Flags where
  sandboxesRoot : String
  rawCommand : String
  outputRoot : String
  keepOutDir : Bool
  copyAllOutput : Bool
  depfileOut : String
  /-- The arguments that are left: `outputsVarEntries`. -/
  args : List String

/-- `makedeps.Deps`. -/
structure Deps where
  output : String
  inputs : List String

/-- How the command ended: `exec.Cmd.Run`. -/
inductive Exit where
  | success
  /-- An `exec.ExitError`, with its text. -/
  | exitError (text : String)
  | notRun
  deriving DecidableEq, Repr

/-- What the process finds around it. -/
structure Env where
  cwd : List Name
  /-- The names that `TempDir` tries, one after the other. -/
  random : List Name
  /-- The time at which an output is moved. -/
  now : String → Nat
  bash : String → Tree → Tree × Exit
  /-- `makedeps.Parse` and `Deps.Print`. -/
  parse : String → Option Deps
  print : Deps → String

inductive Failure where
  | usage (violation : String)
  | os (errno : Errno)
  | outputPrefix
  | rel
  | tempDir (errno : Errno)
  | command (text : String)
  | notRun
  | missingOutputs (message : String)
  | parse
  /-- A panic of the Go program. -/
  | panic
  deriving DecidableEq, Repr

/-- What a part of the program comes to: a result and the tree, or the failure that ended it and the
tree at that point. -/
abbrev Result (α : Type) : Type := Except (Failure × Tree) α

/-- A system call, made while the tree is `t`. -/
def call {α : Type} (t : Tree) (x : Except Errno α) : Result α := x.mapError fun e => (.os e, t)

section Calls

variable {α β : Type} {t : Tree} {x : Except Errno α} {f : α → Result β} {a : α} {b : β}
  {e : Failure × Tree}

@[simp] theorem call_ok : call t (.ok a) = .ok a := rfl

@[simp] theorem call_eq_ok : call t x = .ok a ↔ x = .ok a := by
  cases x <;> simp [call, Except.mapError]


theorem call_eq_error : call t x = .error e ↔ ∃ errno, x = .error errno ∧ e = (.os errno, t) := by
  cases x <;> simp [call, Except.mapError, eq_comm]

/-- A sequence returns only if its first half does. -/
theorem bind_eq_ok {ε : Type} {y : Except ε α} {g : α → Except ε β} :
    (y >>= g) = .ok b ↔ ∃ a, y = .ok a ∧ g a = .ok b := by
  cases y <;> simp [bind, Except.bind]

theorem bind_eq_error {y : Result α} :
    (y >>= f) = .error e ↔ y = .error e ∨ ∃ a, y = .ok a ∧ f a = .error e := by
  cases y <;> simp [bind, Except.bind]

theorem call_bind_eq_ok : (call t x >>= f) = .ok b ↔ ∃ a, x = .ok a ∧ f a = .ok b := by
  simp only [bind_eq_ok, call_eq_ok]

/-- A call that fails leaves the tree it was made in. -/
theorem call_bind_eq_error :
    (call t x >>= f) = .error e ↔
      (∃ errno, x = .error errno ∧ e = (.os errno, t)) ∨ ∃ a, x = .ok a ∧ f a = .error e := by
  cases x with
  | error errno => simp [call, Except.mapError, bind, Except.bind, eq_comm]
  | ok a => simp [bind, Except.bind]

end Calls

/-- The tree that is there afterwards, whether it succeeded or failed. -/
def left : Result Tree → Tree
  | .ok t => t
  | .error (_, t) => t

/-! ## Texts -/

def contains (text part : String) : Bool := decide (part.toList <:+: text.toList)

/-- `strings.Replace(text, old, new, -1)`. -/
def replace (text old new : String) : String :=
  String.ofList (Fields.replace old.toList new.toList text.toList)

def sboxOutDir : String := "__SBOX_OUT_DIR__"
def sboxOutFiles : String := "__SBOX_OUT_FILES__"
def sboxDepfile : String := "__SBOX_DEPFILE__"

/-- `strings.TrimPrefix`, which fails in `run` where the prefix is not there. -/
def trimOutput (filePath : String) : Option String :=
  if (sboxOutDir ++ "/").toList.isPrefixOf filePath.toList then
    some (String.ofList (filePath.toList.drop (sboxOutDir ++ "/").length))
  else none

/-- `outputsVarEntries`, with the prefix of each removed. -/
def trimOutputs : List String → Option (List String)
  | [] => some []
  | filePath :: rest => do
      let output ← trimOutput filePath
      let outputs ← trimOutputs rest
      return output :: outputs

/-! ## Places -/

/-- Where a path that is given as a flag is. -/
def Env.at (env : Env) (path : String) : List Name := walk env.cwd (ofText path.toList)

/-- `filepath.Join(base, filePath)`. -/
def joinPath (base : Path Name) (filePath : String) : Path Name := joinText base filePath.toList

/-- `filepath.Dir(filePath)` below `base`. -/
def joinDir (base : Path Name) (filePath : String) : Path Name :=
  join base (dirOfText filePath.toList)

/-- `ioutil.TempDir(sandboxesRoot, "sbox")`: the first name that is not taken. -/
def makeTempDir (env : Env) (sandboxesRoot : Path Name) (t : Tree) :
    Except Errno (Path Name × Tree) :=
  if t.isDir (walk env.cwd sandboxesRoot) then
    match env.random.find? fun n =>
        (t.get (walk env.cwd (sandboxesRoot.push (.name n)))).isNone with
    | some n => do
        let t ← t.mkdirAll (walk env.cwd (sandboxesRoot.push (.name n)))
        return (sandboxesRoot.push (.name n), t)
    | none => .error .exist
  else .error .noent

/-! ## Before the command -/

/-- What is known when the deferred removal of the sandbox is registered. -/
structure Sandbox where
  tempDir : Path Name
  /-- The declared outputs, as the command's `__SBOX_OUT_FILES__` names them. -/
  outputsVarEntries : List String
  /-- These and the depfile. -/
  allOutputs : List String
  rawCommand : String
  tree : Tree

/-- The checks of the flags, made before anything is touched. -/
def checkFlags (flags : Flags) : Option String :=
  if flags.rawCommand = "" then some "-c <commandToRun> is required and must be non-empty"
  else if flags.sandboxesRoot = "" then
    some "--sandbox-path <sandboxPath> is required and must be non-empty"
  else if flags.outputRoot = "" then
    some "--output-root <outputRoot> is required and must be non-empty"
  else if flags.copyAllOutput = false ∧ flags.args = [] then
    some "at least one output file must be given"
  else none

/-- The depfile as an output, if one is asked for. -/
def depfileOutputs (flags : Flags) : Option (List String) :=
  if flags.depfileOut = "" then some []
  else (rel (ofText flags.outputRoot.toList) (ofText flags.depfileOut.toList)).map fun p =>
    [String.ofList p.text]

/-- `os.RemoveAll`, which refuses a path that ends in `.` before it looks at the tree. -/
def removeAll (env : Env) (path : String) (t : Tree) : Except Errno Tree :=
  if path = "." ∨ "/.".toList <:+ path.toList then .error .inval
  else t.removeAll (env.at path)

/-- The sandboxes root and the output root, which is emptied. -/
def setupDirectories (env : Env) (flags : Flags) (t : Tree) : Result Tree := do
  let t ← call t (t.mkdirAll (env.at flags.sandboxesRoot))
  let t ← call t (removeAll env flags.outputRoot t)
  call t (t.mkdirAll (env.at flags.outputRoot))

/-- The outputs by the arguments, and the depfile. -/
def declared (flags : Flags) : List String :=
  (trimOutputs flags.args).getD [] ++ (depfileOutputs flags).getD []

/-- The first half of `run`. The error of `TempDir` is looked at last. -/
def prepare (env : Env) (flags : Flags) (t : Tree) : Result Sandbox := do
  match checkFlags flags with
  | some violation => throw (.usage violation, t)
  | none =>
    let t ← setupDirectories env flags t
    let temp := makeTempDir env (ofText flags.sandboxesRoot.toList) t
    let t := match temp with
      | .ok (_, t') => t'
      | .error _ => t
    match trimOutputs flags.args with
    | none => throw (.outputPrefix, t)
    | some outputs =>
      match depfileOutputs flags with
      | none => throw (.rel, t)
      | some depfile =>
        match temp with
        | .error e => throw (.tempDir e, t)
        | .ok (tempDir, t) =>
          let command := depfile.foldl (fun command output =>
            replace command sboxDepfile (String.ofList (joinPath tempDir output).text))
            flags.rawCommand
          return ⟨tempDir, outputs, outputs ++ depfile, command, t⟩

/-- The text that `bash` gets. -/
def Sandbox.command (sb : Sandbox) : String :=
  let command :=
    if contains sb.rawCommand sboxOutDir then
      replace sb.rawCommand sboxOutDir (String.ofList sb.tempDir.text)
    else sb.rawCommand
  if contains command sboxOutFiles then
    replace command sboxOutFiles
      (" ".intercalate (sb.outputsVarEntries.map fun o => String.ofList (joinPath sb.tempDir o).text))
  else command

/-! ## The sandbox -/

/-- The directories of the outputs in the sandbox. -/
def makeDirs (env : Env) (tempDir : Path Name) : List String → Tree → Result Tree
  | [], t => .ok t
  | filePath :: rest, t => do
      let t ← call t (t.mkdirAll (walk env.cwd (joinDir tempDir filePath)))
      makeDirs env tempDir rest t

/-- `missingOutputErrors`. -/
def missingOutputErrors (env : Env) (tempDir : Path Name) (allOutputs : List String) (t : Tree) :
    List String :=
  allOutputs.filterMap fun filePath =>
    match t.get (walk env.cwd (joinPath tempDir filePath)) with
    | none => some (filePath ++ ": does not exist")
    | some .dir => some (filePath ++ ": not a file")
    | some (.file _) => none

/-- Names as a path. -/
def pathOfNames (ns : List Name) : Path Name := ⟨false, 0, ns, fun _ => rfl⟩

/-- `findAllFilesUnder`: `filepath.Walk` hands the callback no `FileInfo` for a root that is not
there, and the callback asks it whether it is a directory. -/
def findAllFilesUnder (env : Env) (root : Path Name) (t : Tree) : Option (List String) :=
  if (t.get (walk env.cwd root)).isNone then none
  else some ((t.filesUnder (walk env.cwd root)).map fun ns => String.ofList (pathOfNames ns).text)

/-- The text that says which outputs were not made and which were. -/
def missingOutputsMessage (command : String) (tempDir : Path Name) (missing created : List String) :
    String :=
  let shown :=
    if created.length > 10 then
      created.take 10 ++ ["..." ++ toString (created.length - 10) ++ " more"]
    else created
  "mismatch between declared and actual outputs\n" ++
    "in sbox_lineage command(" ++ command ++ ")\n\n" ++
    "in sandbox " ++ String.ofList tempDir.text ++ ",\n" ++
    "failed to create " ++ toString missing.length ++ " files:\n" ++
    String.join (missing.map fun m => "  " ++ m ++ "\n") ++
    if created.length < 1 then "created 0 files."
    else "did create " ++ toString created.length ++ " files:\n" ++
      String.join (shown.map fun m => "  " ++ m ++ "\n")

/-! ## After the command -/

/-- One output from the sandbox to its place. `os.Chtimes` and the `os.Stat` before it would follow
a symbolic link; what is moved here is the file itself. -/
def moveOutput (env : Env) (tempDir outputRoot : Path Name) (filePath : String) (t : Tree) :
    Result Tree := do
  let tempPath := walk env.cwd (joinPath tempDir filePath)
  let destPath := joinPath outputRoot filePath
  let t ← call t (t.mkdirAll (walk env.cwd (dir destPath)))
  let t ← call t (t.update tempPath fun file => { file with mtime := env.now filePath })
  call t (t.rename tempPath (walk env.cwd destPath))

def moveOutputs (env : Env) (tempDir outputRoot : Path Name) : List String → Tree → Result Tree
  | [], t => .ok t
  | filePath :: rest, t => do
      let t ← moveOutput env tempDir outputRoot filePath t
      moveOutputs env tempDir outputRoot rest t

/-- The depfile, moved with the outputs, written again without the name of the sandbox. -/
def rewriteDepfile (env : Env) (flags : Flags) (t : Tree) : Result Tree :=
  if flags.depfileOut = "" then .ok t
  else do
    let file ← call t (t.read (env.at flags.depfileOut))
    match env.parse file.content with
    | none => throw (.parse, t)
    | some deps =>
      call t (t.write (env.at flags.depfileOut)
        ⟨env.print { deps with output := "outputfile" }, env.now flags.depfileOut⟩)

/-- What is moved: the declared outputs, or all that is there. -/
def filePathList (env : Env) (flags : Flags) (sb : Sandbox) (t : Tree) : Option (List String) :=
  if flags.copyAllOutput then findAllFilesUnder env sb.tempDir t else some sb.allOutputs

/-- The second half of `run`: everything while the sandbox is there. -/
def inSandbox (env : Env) (flags : Flags) (sb : Sandbox) : Result Tree := do
  let t ← makeDirs env sb.tempDir sb.allOutputs sb.tree
  let (t, exit) := env.bash sb.command t
  match exit with
  | .exitError text => throw (.command text, t)
  | .notRun => throw (.notRun, t)
  | .success =>
    let missing := missingOutputErrors env sb.tempDir sb.allOutputs t
    if flags.copyAllOutput = false ∧ missing ≠ [] then
      match findAllFilesUnder env sb.tempDir t with
      | none => throw (.panic, t)
      | some created =>
        throw (.missingOutputs (missingOutputsMessage sb.command sb.tempDir missing created), t)
    else
      match filePathList env flags sb t with
      | none => throw (.panic, t)
      | some filePathList => do
        let t ← moveOutputs env sb.tempDir (ofText flags.outputRoot.toList) filePathList t
        rewriteDepfile env flags t

/-- Whether the sandbox stays: on request, and where outputs are missing. -/
def keeps (flags : Flags) : Result Tree → Bool
  | .error (.missingOutputs _, _) => true
  | _ => flags.keepOutDir

/-- The deferred removal of the sandbox, whose own failure is not looked at. Its path ends in a name
that `TempDir` has chosen. -/
def deferred (env : Env) (flags : Flags) (tempDir : Path Name) (x : Result Tree) : Result Tree :=
  let removed (t : Tree) : Tree := ((t.removeAll (walk env.cwd tempDir)).toOption).getD t
  if keeps flags x then x
  else match x with
    | .ok t => .ok (removed t)
    | .error (f, t) => .error (f, removed t)

def run (env : Env) (flags : Flags) (t : Tree) : Result Tree := do
  let sb ← prepare env flags t
  deferred env flags sb.tempDir (inSandbox env flags sb)

end VendorRs.Sbox
