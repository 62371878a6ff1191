import VendorRs.Lib.Fields
import VendorRs.Lib.Paths
import VendorRs.Lib.Template

/-!
# The rule of a generator module

A `lineage_generator` module names a command, the tools it needs and the files it depends on.
`GenerateAndroidBuildActions` turns it into one rule: the tools are found and named, the variables
of the command are expanded, first those of the product and then the module's own, and what comes
out is quoted and handed to `sbox_lineage`.

What the build system answers is the `Context`. Its errors are collected and do not end the function
as a rule; only a build without any uses the rule.
-/

namespace VendorRs.Generator

open Template

/-- What `fmt.Errorf` is given. -/
structure Errorf where
  format : Text
  args : List Text
  deriving DecidableEq, Repr

/-- An error of the module: `ModuleErrorf`, or `PropertyErrorf` with the error that caused it. -/
inductive Error where
  | module (e : Errorf)
  | property (name format : Text) (cause : Errorf)
  deriving DecidableEq, Repr

/-- How an expansion ends that does not return a text. -/
inductive Stop where
  | errorf (e : Errorf)
  /-- A method of a path that is not there. -/
  | panic
  deriving DecidableEq, Repr

/-- `android.Path`. -/
structure Path where
  rel : Text
  text : Text
  deriving DecidableEq, Repr

/-- What a module that is named as a tool can say about its binary. -/
inductive Provider where
  | hostTool (enabled : Bool) (hostToolPath : Option Text)
  /-- `bootstrap.GoBinaryTool`, with its path below the output directory. -/
  | goBinary (path : Except Text Text)
  | other

/-- A direct dependency. -/
structure Dep where
  name : Text
  /-- Whether it is there as a host tool: `hostToolDepTag`. -/
  hostTool : Bool
  provider : Provider

structure Properties where
  cmd : Option Text
  tools : List Text
  toolFiles : List Text
  exportIncludeDirs : List Text
  exportSourceDirs : List Text
  depRoot : Option Text
  depFiles : List Text

/-- `android.ModuleContext`, as far as it is asked. -/
structure Context where
  /-- `android.Expand`. -/
  expander : Expander Stop
  /-- `VendorConfig("lineageVarsPlugin")`. -/
  lineageVars : Text → Option Text
  moduleDir : Text
  pathForModuleGen : Text → Text
  pathForOutput : Text
  tempDirForOutDir : Text → Text
  directDeps : List Dep
  allowMissingDependencies : Bool
  expandSources : List Text → List Path
  globWithDeps : Text → Except Text (List Text)

structure Rule where
  command : Text
  output : Text
  inputs : List Text
  implicits : List Text
  deriving DecidableEq, Repr

/-- The module while its rule is made, and what the context has been told. -/
structure Module where
  exportedIncludeDirs : List Text
  exportedSourceDirs : List Text
  implicitDeps : List Text
  inputDeps : List Text
  outputDeps : List Text
  tools : List (Text × Text)
  missingDependencies : List Text
  errors : List Error
  build : Option Rule
  deriving DecidableEq, Repr

/-- `proptools.String`. -/
def string (s : Option Text) : Text := s.getD []

namespace Module

def moduleErrorf (m : Module) (format : Text) (args : List Text) : Module :=
  { m with errors := m.errors ++ [.module ⟨format, args⟩] }

def propertyErrorf (m : Module) (property format : Text) (cause : Errorf) : Module :=
  { m with errors := m.errors ++ [.property property format cause] }

/-- A tool under its label. What is printed around the path of the first one depends on where the
second one comes from. -/
def addTool (m : Module) (label path subject second : Text) : Module :=
  let m := { m with implicitDeps := m.implicitDeps ++ [path] }
  match m.tools.lookup label with
  | none => { m with tools := m.tools ++ [(label, path)] }
  | some first =>
      m.moduleErrorf "multiple tools for %q, %q and %q".toList [subject, first, second]

end Module

/-! ## Tools -/

/-- One direct dependency. -/
def visitDep (ctx : Context) (m : Module) (dep : Dep) : Module :=
  if dep.hostTool then
    match dep.provider with
    | .hostTool false _ =>
        if ctx.allowMissingDependencies then
          { m with missingDependencies := m.missingDependencies ++ [dep.name] }
        else m.moduleErrorf "depends on disabled module %q".toList [dep.name]
    | .hostTool true none => m.moduleErrorf "host tool %q missing output file".toList [dep.name]
    | .hostTool true (some path) => m.addTool dep.name path dep.name path
    | .goBinary (.ok path) => m.addTool dep.name path dep.name path
    | .goBinary (.error err) =>
        m.moduleErrorf "cannot find path for %q: %v".toList [dep.name, err]
    | .other => m.moduleErrorf "%q is not a host tool provider".toList [dep.name]
  else m.moduleErrorf "unknown dependency on %q".toList [dep.name]

/-- One tool file. The message names its path where it names the label of a dependency. -/
def addToolFile (m : Module) (tool : Path) : Module :=
  m.addTool tool.rel tool.text tool.text tool.rel

/-! ## Variables -/

/-- What the first pass puts in: a variable of the product, or the variable itself. -/
def lineageVariable (ctx : Context) (name : Text) : Except Stop Text :=
  match ctx.lineageVars name with
  | some value => .ok value
  | none => .ok ("$(".toList ++ name ++ ")".toList)

/-- The name of the property and the format have changed places. -/
def lineageExpandVariables (ctx : Context) (m : Module) (text : Text) : Text × Module :=
  match ctx.expander.expand (lineageVariable ctx) text with
  | .ok out => (out, m)
  | .error (.errorf e) => ([], m.propertyErrorf "%s: %s".toList text e)
  -- no value of this pass does
  | .error .panic => ([], m)

def sboxOutDir : Text := "__SBOX_OUT_DIR__".toList

/-- The path of a tool that may not be there. -/
def toolPath (tools : List (Text × Text)) (label : Text) : Except Stop Text :=
  match tools.lookup label with
  | some path => .ok path
  | none => .error .panic

def location : Text := "location".toList
def genDir : Text := "genDir".toList

/-- What the second pass puts in. -/
def commandVariable (props : Properties) (toolFiles : List Path) (tools : List (Text × Text))
    (name : Text) : Except Stop Text :=
  if name = location then
    match props.tools, toolFiles with
    | [], [] => .error (.errorf
        ⟨"at least one `tools` or `tool_files` is required if $(location) is used".toList, []⟩)
    | tool :: _, _ => toolPath tools tool
    | [], tool :: _ => toolPath tools tool.rel
  else if name = genDir then .ok sboxOutDir
  else if "location ".toList <+: name then
    let label := trim (name.drop "location ".toList.length)
    match tools.lookup label with
    | some path => .ok path
    | none => .error (.errorf ⟨"unknown location label %q".toList, [label]⟩)
  else .error (.errorf ⟨"unknown variable '$(%s)'".toList, [name]⟩)

/-! ## Files -/

/-- `filepath.Join` of two elements, of which an empty one is ignored. -/
def joinFile (root file : Text) : Text :=
  if root = [] ∧ file = [] then []
  else if root = [] then (Paths.ofText file).text
  else (Paths.joinText (Paths.ofText root) file).text

/-- The root of `dep_files`. -/
def depRoot (ctx : Context) (props : Properties) (m : Module) : Text × Module :=
  if string props.depRoot = [] then (ctx.moduleDir, m)
  else lineageExpandVariables ctx m (string props.depRoot)

/-- `dep_files`, and whether all of them could be globbed. -/
def globDepFiles (ctx : Context) (root : Text) : List Text → Module → Module × Bool
  | [], m => (m, true)
  | file :: rest, m =>
      let (file, m) := lineageExpandVariables ctx m file
      match ctx.globWithDeps (joinFile root file) with
      | .error err =>
          (m.moduleErrorf "unable to glob %s: %s".toList [joinFile root file, err], false)
      | .ok paths => globDepFiles ctx root rest { m with inputDeps := m.inputDeps ++ paths }

/-! ## The rule -/

/-- What the shell gets, but for the path of `$sboxCmd`. -/
def sandboxCommand (sandboxPath genDir rawCommand dummyDep : Text) : Text :=
  "$sboxCmd --sandbox-path ".toList ++ sandboxPath ++ " --output-root ".toList ++ genDir ++
    " --copy-all-output -c ".toList ++ rawCommand ++ " && touch ".toList ++ dummyDep

/-- The command with quotes, for the shell. -/
def escape (rawCommand : Text) : Text :=
  "'".toList ++ Fields.replace "'".toList "'\\''".toList rawCommand ++ "'".toList

def exportedDirs (ctx : Context) (dirs : List Text) : List Text :=
  if dirs.length > 0 then dirs.map ctx.pathForModuleGen else [ctx.pathForModuleGen []]

def dummyDep (ctx : Context) : Text := ctx.pathForModuleGen ".dummy_dep".toList

def sandboxPath (ctx : Context) : Text := ctx.tempDirForOutDir ctx.pathForOutput

/-- The rule for the expanded command. -/
def makeRule (ctx : Context) (m : Module) (rawCommand : Text) : Module :=
  { m with
    outputDeps := m.outputDeps ++ [dummyDep ctx]
    build := some
      { command := sandboxCommand (sandboxPath ctx) (ctx.pathForModuleGen []) (escape rawCommand)
          (dummyDep ctx)
        output := dummyDep ctx
        inputs := m.inputDeps
        implicits := m.implicitDeps } }

/-- The module before its tools are looked for. -/
def start (ctx : Context) (props : Properties) : Module where
  exportedIncludeDirs := exportedDirs ctx props.exportIncludeDirs
  exportedSourceDirs := exportedDirs ctx props.exportSourceDirs
  implicitDeps := []
  inputDeps := []
  outputDeps := []
  tools := []
  missingDependencies := []
  errors := []
  build := none

def findTools (ctx : Context) (props : Properties) : Module :=
  if props.tools.length > 0 then ctx.directDeps.foldl (visitDep ctx) (start ctx props)
  else start ctx props

/-- The module as the build system gets it, or nothing if the function panics. -/
def generateAndroidBuildActions (ctx : Context) (props : Properties) : Option Module :=
  let m := findTools ctx props
  if m.errors ≠ [] then some m
  else
    let toolFiles := ctx.expandSources props.toolFiles
    let m := toolFiles.foldl addToolFile m
    let (root, m) := depRoot ctx props m
    match globDepFiles ctx root props.depFiles m with
    | (m, false) => some m
    | (m, true) =>
        let (cmd, m) := lineageExpandVariables ctx m (string props.cmd)
        match ctx.expander.expand (commandVariable props toolFiles m.tools) cmd with
        | .error .panic => none
        | .error (.errorf e) => some (m.propertyErrorf "cmd".toList "%s".toList e)
        | .ok rawCommand => some (makeRule ctx m rawCommand)

end VendorRs.Generator
