import VendorRs.Sbox.CleanUp

/-!
# The program around a run

`main` reads the flags and makes one run of them. It fails if the run does, and if a flag is not
known or has no value.
-/

namespace VendorRs.Sbox

open Paths FileTree

/-! ## Flags -/

/-- The flags with a text as their value. `input-hash` is read and not used. -/
def stringFlag (name : List Char) (flags : Flags) (value : String) : Option Flags :=
  if name = "sandbox-path".toList then some { flags with sandboxesRoot := value }
  else if name = "c".toList then some { flags with rawCommand := value }
  else if name = "output-root".toList then some { flags with outputRoot := value }
  else if name = "depfile-out".toList then some { flags with depfileOut := value }
  else if name = "input-hash".toList then some flags
  else none

def boolFlag (name : List Char) (flags : Flags) (value : Bool) : Option Flags :=
  if name = "keep-out-dir".toList then some { flags with keepOutDir := value }
  else if name = "copy-all-output".toList then some { flags with copyAllOutput := value }
  else none

/-- The default values. -/
def noFlags : Flags where
  sandboxesRoot := ""
  rawCommand := ""
  outputRoot := ""
  keepOutDir := false
  copyAllOutput := false
  depfileOut := ""
  args := []

/-- `strconv.ParseBool`. -/
def parseBool (value : List Char) : Option Bool :=
  if value ∈ ["1", "t", "T", "true", "TRUE", "True"].map (·.toList) then some true
  else if value ∈ ["0", "f", "F", "false", "FALSE", "False"].map (·.toList) then some false
  else none

/-- What an argument is to `flag.Parse`. -/
inductive Arg where
  | flag (name : List Char) (value : Option (List Char))
  /-- `--`, behind which there are no flags. -/
  | last
  | operand
  | bad

/-- A flag without its dashes, up to a `=` that is not its first character. -/
def flagOf (body : List Char) : Arg :=
  match body with
  | [] => .bad
  | c :: body =>
      if c = '-' ∨ c = '=' then .bad
      else
        match body.dropWhile (· ≠ '=') with
        | [] => .flag (c :: body) none
        | _ :: value => .flag (c :: body.takeWhile (· ≠ '=')) (some value)

def argOf (arg : List Char) : Arg :=
  match arg with
  | ['-', '-'] => .last
  | '-' :: '-' :: body => flagOf body
  | '-' :: c :: body => flagOf (c :: body)
  | _ => .operand

/-- `flag.Parse`, or nothing where it ends the program. A flag that takes a text without one in its
own argument has the next argument for it, whatever that is. -/
def parseArgs (flags : Flags) : Option (List Char) → List (List Char) → Option Flags
  | none, [] => some flags
  | some _, [] => none
  | some name, value :: rest =>
      match stringFlag name flags (String.ofList value) with
      | none => none
      | some flags => parseArgs flags none rest
  | none, arg :: rest =>
      match argOf arg with
      | .bad => none
      | .operand => some { flags with args := (arg :: rest).map String.ofList }
      | .last => some { flags with args := rest.map String.ofList }
      | .flag name value =>
          match boolFlag name flags true, value with
          | some flags, none => parseArgs flags none rest
          | some _, some value =>
              match (parseBool value).bind (boolFlag name flags) with
              | none => none
              | some flags => parseArgs flags none rest
          | none, some value =>
              match stringFlag name flags (String.ofList value) with
              | none => none
              | some flags => parseArgs flags none rest
          | none, none => parseArgs flags (some name) rest

/-! ## The program -/

/-- What a run leaves, and whether the program then succeeds. -/
def exited : Result Tree → Tree × Bool
  | .ok t => (t, true)
  | .error (_, t) => (t, false)

/-- What the program leaves, and whether it succeeds. -/
def main (env : Env) (args : List (List Char)) (t : Tree) : Tree × Bool :=
  match parseArgs noFlags none args with
  | none => (t, false)
  | some flags => exited (run env flags t)

theorem main_eq {env : Env} {args : List (List Char)} {flags : Flags}
    (h : parseArgs noFlags none args = some flags) (t : Tree) :
    main env args t = exited (run env flags t) := by
  unfold main
  rw [h]

/-! ## What bash gets -/

variable {env : Env} {flags : Flags} {t : Tree} {sb : Sandbox}

/-- **The markers for the output directory become the sandbox**, wherever they stand between pieces
that neither hold the marker nor begin it. -/
theorem command_eq {pieces : List (List Char)}
    (hraw : sb.rawCommand = String.ofList (sboxOutDir.toList.intercalate pieces))
    (hclear : ∀ piece ∈ pieces, ¬ sboxOutDir.toList <:+: piece ++ sboxOutDir.toList.dropLast)
    (hfiles : ¬ sboxOutFiles.toList <:+: sb.tempDir.text.intercalate pieces) :
    sb.command = String.ofList (sb.tempDir.text.intercalate pieces) := by
  have hfirst : (if contains sb.rawCommand sboxOutDir then
      replace sb.rawCommand sboxOutDir (String.ofList sb.tempDir.text) else sb.rawCommand) =
      String.ofList (sb.tempDir.text.intercalate pieces) := by
    split
    · rw [replace, hraw, String.toList_ofList, String.toList_ofList,
        Fields.replace_intercalate (by decide) hclear]
    · next hnone =>
      -- then there is one piece only
      have hnone : ¬ sboxOutDir.toList <:+: sboxOutDir.toList.intercalate pieces := by
        simpa [contains, hraw] using hnone
      rw [hraw]
      match pieces with
      | [] => rfl
      | [piece] => rw [List.intercalate_singleton, List.intercalate_singleton]
      | piece :: next :: rest =>
          rw [List.intercalate_cons_cons] at hnone
          exact absurd (List.infix_append _ _ _) hnone
  rw [Sandbox.command, hfirst, if_neg]
  simpa [contains] using hfiles

end VendorRs.Sbox
