import VendorRs.Lib.Shell
import VendorRs.Generator.Tools
import VendorRs.Sbox.Main

/-!
# What becomes of a command

From the blueprint file to `bash` a command passes through four readers: the variables of the
product are put in, then the module's own, the shell that ninja starts takes the line apart, and
`sbox_lineage` puts the name of the sandbox in. All of them together come to one substitution
(`command_of_generate`). What the documentation says of the dollar is not so: since two passes read
it, it has to be written four times (`generate_two_dollars`).
-/

namespace VendorRs.Generator

open Template
open Shell hiding Text

/-- The variables of the product, each a template for the module's own pass. -/
structure ProductVars (ctx : Context) (own : Text → Option (List Part)) : Prop where
  value : ∀ name, ctx.lineageVars name = (own name).map render
  ok : ∀ name ps, own name = some ps → ∀ p ∈ ps, p.Ok

/-- A command with each dollar written four times. -/
structure Written (props : Properties) (ps : List Part) : Prop where
  text : string props.cmd = render (ps.flatMap Part.twice)
  ok : ∀ p ∈ ps, p.Ok

/-- What a command consists of around the places of the output directory. -/
def pieces (ctx : Context) (props : Properties) (own : Text → Option (List Part))
    (ps : List Part) : Except Stop (List Text) :=
  fields (commandVariable props (ctx.expandSources props.toolFiles) (declared ctx props)) genDir
    (ps.flatMap (Part.fill own))

variable {ctx : Context} {props : Properties} {m : Module} {own : Text → Option (List Part)}
  {ps : List Part} {fs : List Text} {text : Text}

/-! ## The two passes -/

theorem lineageVariable_eq (hown : ProductVars ctx own) :
    lineageVariable ctx = passValue own := by
  funext name
  rw [lineageVariable, passValue, hown.value, Part.fill]
  cases own name with
  | none => simp [render, Part.render]
  | some ps => rfl

theorem lineageExpandVariables_written (hown : ProductVars ctx own) (hcmd : Written props ps)
    (m : Module) :
    lineageExpandVariables ctx m (string props.cmd) = (render (ps.flatMap (Part.fill own)), m) := by
  rw [lineageExpandVariables, hcmd.text, lineageVariable_eq hown,
    ctx.expander.expand_pass hcmd.ok]

/-- The command is read by the first pass only. -/
theorem generate_congr {a b : Text}
    (h : ∀ m, lineageExpandVariables ctx m a = lineageExpandVariables ctx m b) :
    generateAndroidBuildActions ctx { props with cmd := some a } =
      generateAndroidBuildActions ctx { props with cmd := some b } := by
  unfold generateAndroidBuildActions
  simp only [string, Option.getD_some, h]
  rfl

/-- The first pass reads a dollar that is written twice, and leaves one. -/
theorem expand_two_dollars (hown : ProductVars ctx own) {name : Text} {qs : List Part}
    (hps : ∀ p ∈ ps, p.Ok) (hqs : ∀ p ∈ qs, p.Ok) (hdollar : '$' ∉ name)
    (hnot : own name = none) :
    ctx.expander.expand (lineageVariable ctx) (render
        (ps.flatMap Part.twice ++ .dollar :: .lit ('(' :: (name ++ [')'])) ::
          qs.flatMap Part.twice)) =
      .ok (render ((ps ++ .var name :: qs).flatMap (Part.fill own))) := by
  have hlit : (Part.lit ('(' :: (name ++ [')']))).Ok := by simp [Part.Ok, hdollar]
  have hok : ∀ p ∈ ps.flatMap Part.twice ++ .dollar :: .lit ('(' :: (name ++ [')'])) ::
      qs.flatMap Part.twice, p.Ok := by
    intro p hp
    rcases List.mem_append.mp hp with hp | hp
    · exact ok_twice hps p hp
    · rcases List.mem_cons.mp hp with rfl | hp
      · trivial
      · rcases List.mem_cons.mp hp with rfl | hp
        · exact hlit
        · exact ok_twice hqs p hp
  rw [lineageVariable_eq hown, ctx.expander.expand_render _ _ hok, eval_append (eval_pass own ps),
    eval, eval, eval_pass]
  simp [Except.map, render, Part.fill, hnot, Part.render]

/-- **A dollar that is written twice is no dollar.** What follows it in parentheses is a variable,
as if there were one only. -/
theorem generate_two_dollars (hown : ProductVars ctx own) {name : Text} {qs : List Part}
    (hps : ∀ p ∈ ps, p.Ok) (hqs : ∀ p ∈ qs, p.Ok) (hname : (Part.var name).Ok)
    (hdollar : '$' ∉ name) (hnot : own name = none) :
    generateAndroidBuildActions ctx { props with cmd := some (render
        (ps.flatMap Part.twice ++ .dollar :: .lit ('(' :: (name ++ [')'])) ::
          qs.flatMap Part.twice)) } =
      generateAndroidBuildActions ctx { props with cmd := some (render
        ((ps ++ .var name :: qs).flatMap Part.twice)) } := by
  have hall : ∀ p ∈ ps ++ .var name :: qs, p.Ok := by
    intro p hp
    rcases List.mem_append.mp hp with hp | hp
    · exact hps p hp
    · rcases List.mem_cons.mp hp with rfl | hp
      · exact hname
      · exact hqs p hp
  apply generate_congr
  intro m
  rw [lineageExpandVariables, lineageExpandVariables,
    expand_two_dollars hown hps hqs hdollar hnot, lineageVariable_eq hown,
    ctx.expander.expand_pass hall]

def sampleVars (name : Text) : Option (List Part) :=
  if name = "HEADERS".toList then some [.var genDir, .lit "/include".toList] else none

theorem productVars_sample : ProductVars sampleContext sampleVars where
  value name := by
    by_cases h : name = "HEADERS".toList
    · simp only [sampleContext, sampleVars, if_pos h]
      rfl
    · simp only [sampleContext, sampleVars, if_neg h]
      rfl
  ok name ps h := by
    unfold sampleVars at h
    split at h
    · cases h
      decide
    · cases h

theorem generate_two_dollars_genDir :
    generateAndroidBuildActions sampleContext
        { sampleProps with cmd := some "mkdir $$(genDir)/x".toList } =
      generateAndroidBuildActions sampleContext
        { sampleProps with cmd := some "mkdir $(genDir)/x".toList } :=
  @generate_two_dollars sampleContext sampleProps sampleVars [.lit "mkdir ".toList]
    productVars_sample genDir [.lit "/x".toList] (by decide) (by decide) (by decide) (by decide) rfl

/-- **The rule of a module without errors**: what is quoted is the command with the marker for the
output directory between its pieces. -/
theorem rule_of_generate (hown : ProductVars ctx own) (hcmd : Written props ps)
    (h : generateAndroidBuildActions ctx props = some m) (herrors : m.errors = []) :
    ∃ fs rule, pieces ctx props own ps = .ok fs ∧ m.build = some rule ∧
      rule.implicits = (declared ctx props).map Prod.snd ∧ rule.output = dummyDep ctx ∧
      rule.command = sandboxCommand (sandboxPath ctx) (ctx.pathForModuleGen [])
        (escape (sboxOutDir.intercalate fs)) (dummyDep ctx) := by
  obtain ⟨htools, -, hdeps⟩ := tools_of_generate h herrors
  obtain ⟨m₁, m₂, rawCommand, -, hexpand, -, hraw, rfl⟩ := generate_eq_some h herrors
  have hok : ∀ p ∈ ps.flatMap (Part.fill own), p.Ok := ok_fill hcmd.ok hown.ok
  have hmark : commandVariable props (ctx.expandSources props.toolFiles) (declared ctx props)
      genDir = .ok sboxOutDir := by
    unfold commandVariable
    rw [if_neg (by decide), if_pos rfl]
  have htools' : m₂.tools = declared ctx props := htools
  rw [lineageExpandVariables_written hown hcmd, ctx.expander.expand_render _ _ hok, htools',
    eval_eq_fields hmark] at hraw
  cases hfs : pieces ctx props own ps with
  | error e =>
      rw [pieces] at hfs
      rw [hfs] at hraw
      cases hraw
  | ok fs =>
      rw [pieces] at hfs
      rw [hfs] at hraw
      cases hraw
      exact ⟨fs, _, rfl, rfl, hdeps, rfl, rfl⟩

/-! ## The line -/

/-- How ninja makes a line from the command of a rule: the variable is the path of the tool, and a
text without dollars is left as it is. -/
structure Ninja where
  sboxCmd : Text
  line : Text → Text
  line_eq : ∀ text, '$' ∉ text → line ("$sboxCmd ".toList ++ text) = sboxCmd ++ ' ' :: text

/-- A path that the shell leaves alone. -/
def Harmless (path : Text) : Prop := path ≠ [] ∧ ∀ c ∈ path, plain c = true

instance (path : Text) : Decidable (Harmless path) :=
  have : Decidable (∀ c ∈ path, plain c = true) := List.decidableBAll _ path
  inferInstanceAs (Decidable (path ≠ [] ∧ ∀ c ∈ path, plain c = true))

theorem Harmless.no_dollar (h : Harmless text) : '$' ∉ text := by
  intro hmem
  have hplain := h.2 _ hmem
  revert hplain
  decide

/-- The paths in the line. -/
structure HarmlessPaths (ninja : Ninja) (sandboxPath genDir dummyDep : Text) : Prop where
  sboxCmd : Harmless ninja.sboxCmd
  sandboxPath : Harmless sandboxPath
  genDir : Harmless genDir
  dummyDep : Harmless dummyDep

/-- The arguments of `sbox_lineage`. -/
def sboxArgs (sandboxPath genDir rawCommand : Text) : List Text :=
  ["--sandbox-path".toList, sandboxPath, "--output-root".toList, genDir,
    "--copy-all-output".toList, "-c".toList, rawCommand]

theorem escape_eq_quote (text : Text) : escape text = quote text := rfl

theorem dollar_notMem_escape (h : '$' ∉ text) : '$' ∉ escape text := by
  rw [escape_eq_quote, quote]
  have hreplace : '$' ∉ Fields.replace ['\''] ['\'', '\\', '\'', '\''] text := fun hmem =>
    (Fields.mem_of_mem_replace hmem).elim h (by decide)
  simp [hreplace]

variable {ninja : Ninja} {sandbox root dep : Text}

/-- **The shell reads two commands**: `sbox_lineage` with the command as one of its arguments,
whatever quotes and operators that has in it, and then `touch`. -/
theorem andList_line (hpaths : HarmlessPaths ninja sandbox root dep) (h : '$' ∉ text) :
    andList (ninja.line (sandboxCommand sandbox root (escape text) dep)) =
      some [ninja.sboxCmd :: sboxArgs sandbox root text, ["touch".toList, dep]] := by
  -- the line as a variable, and as words
  have hsplit : sandboxCommand sandbox root (escape text) dep = "$sboxCmd ".toList ++
      ("--sandbox-path ".toList ++ sandbox ++ " --output-root ".toList ++ root ++
        " --copy-all-output -c ".toList ++ escape text ++ " && touch ".toList ++ dep) := by
    have hvariable : "$sboxCmd --sandbox-path ".toList =
        "$sboxCmd ".toList ++ "--sandbox-path ".toList := by decide
    unfold sandboxCommand
    rw [hvariable]
    simp only [List.append_assoc]
  have hline : ninja.line (sandboxCommand sandbox root (escape text) dep) =
      [' '].intercalate ([ninja.sboxCmd, "--sandbox-path".toList, sandbox,
        "--output-root".toList, root, "--copy-all-output".toList, "-c".toList, quote text] ++
        ['&', '&'] :: ["touch".toList, dep]) := by
    have hsandbox : "--sandbox-path ".toList = "--sandbox-path".toList ++ [' '] := by decide
    have hroot : " --output-root ".toList = [' '] ++ "--output-root".toList ++ [' '] := by decide
    have hcopy : " --copy-all-output -c ".toList =
        [' '] ++ "--copy-all-output".toList ++ [' '] ++ "-c".toList ++ [' '] := by decide
    have htouch : " && touch ".toList =
        [' '] ++ ['&', '&'] ++ [' '] ++ "touch".toList ++ [' '] := by decide
    rw [hsplit, ninja.line_eq, hsandbox, hroot, hcopy, htouch, escape_eq_quote]
    · simp only [List.cons_append, List.nil_append, List.intercalate_cons_cons,
        List.intercalate_singleton, List.append_assoc]
    · simp [hpaths.sandboxPath.no_dollar, hpaths.genDir.no_dollar, hpaths.dummyDep.no_dollar,
        dollar_notMem_escape h]
  have hword {w : Text} (hw : Harmless w) : Reads w w := reads_plain hw.1 hw.2
  rw [hline]
  apply andList_and
  · exact .cons (hword hpaths.sboxCmd) <| .cons (hword (by decide)) <|
      .cons (hword hpaths.sandboxPath) <| .cons (hword (by decide)) <|
      .cons (hword hpaths.genDir) <| .cons (hword (by decide)) <| .cons (hword (by decide)) <|
      .cons (reads_quote text) .nil
  · exact .cons (hword (by decide)) <| .cons (hword hpaths.dummyDep) .nil
  · exact List.cons_ne_nil _ _
  · exact List.cons_ne_nil _ _

/-! ## The flags -/

def sboxFlags (sandboxPath genDir rawCommand : Text) : Sbox.Flags :=
  { Sbox.noFlags with
    sandboxesRoot := .ofList sandboxPath
    outputRoot := .ofList genDir
    copyAllOutput := true
    rawCommand := .ofList rawCommand }

theorem parseArgs_sboxArgs (sandboxPath genDir rawCommand : Text) :
    Sbox.parseArgs Sbox.noFlags none (sboxArgs sandboxPath genDir rawCommand) =
      some (sboxFlags sandboxPath genDir rawCommand) := rfl

/-! ## From the blueprint file to bash -/

def sampleNinja : Ninja where
  sboxCmd := "out/sbox_lineage".toList
  line command :=
    if "$sboxCmd ".toList <+: command then
      "out/sbox_lineage".toList ++ ' ' :: command.drop "$sboxCmd ".toList.length
    else command
  line_eq text _ := by
    rw [if_pos (List.prefix_append _ _), List.drop_left]

def sampleParts : List Part :=
  [.var "location mkhdr".toList, .lit " -o ".toList, .var "HEADERS".toList,
    .lit "/a.h 'one' && ".toList, .var "location fix.sh".toList, .lit " ".toList, .var genDir]

theorem written_sample : Written sampleProps sampleParts := ⟨by decide, by decide⟩

end VendorRs.Generator
