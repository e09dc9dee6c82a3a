/-
# What a command line asks for

A command line names one of two commands: `apply` maps an input through a mapping document,
and `lint` looks through mapping documents.  The option `--verbose` may stand in front of the
name of the command as well as behind it.
-/
import Reshape.Command.Arguments

namespace Reshape

/-! ## 1. Requests -/

/-- What to map, and where to. -/
structure ApplyRequest where
  /-- The source of the input. -/
  input : String
  /-- The source of the mapping document. -/
  schema : String
  /-- The file to write; the output is printed if there is none. -/
  output : Option String
  pretty : Bool
  /-- The source of a JSON Schema that the output must meet. -/
  validate : Option String
deriving DecidableEq, Repr

/-- What to look through, and how to report it. -/
structure LintRequest where
  path : String
  format : String
  /-- Do warnings count as errors? -/
  strict : Bool
  quiet : Bool
deriving DecidableEq, Repr

inductive Request where
  | apply (r : ApplyRequest)
  | lint (r : LintRequest)
deriving DecidableEq, Repr

/-- The sources that a request reads. -/
def Request.sources : Request → List String
  | apply r => [r.schema, r.input] ++ r.validate.toList
  | lint r => [r.path]

/-- The file that a request writes. -/
def Request.target? : Request → Option String
  | apply r => r.output
  | lint _ => none

/-- A request, and whether to show the details of the run. -/
structure Invocation where
  verbose : Bool
  request : Request
deriving DecidableEq, Repr

/-! ## 2. From arguments -/

namespace Invocation

def verboseOption : CommandOption := ⟨"verbose", some 'v', false⟩

/-- The options of `apply`. -/
def applyOptions : List CommandOption :=
  [verboseOption, ⟨"schema", some 's', true⟩, ⟨"output", none, true⟩, ⟨"pretty", none, false⟩,
    ⟨"validate", none, true⟩]

/-- The options of `lint`. -/
def lintOptions : List CommandOption :=
  [verboseOption, ⟨"format", none, true⟩, ⟨"strict", none, false⟩, ⟨"quiet", some 'q', false⟩]

/-- The only operand. -/
def onlyOperand (name : String) (a : Arguments) : Except UsageError String :=
  match a.operands with
  | [] => .error (.missing name)
  | [operand] => .ok operand
  | _ :: operand :: _ => .error (.unexpected operand)

/-- A name of a file, which is not empty. -/
def fileName (name value : String) : Except UsageError String :=
  if value = "" then .error (.empty name) else .ok value

def applyRequest (a : Arguments) : Except UsageError ApplyRequest := do
  let input ← onlyOperand "INPUT" a
  let output ← match a.value? "output" with
    | some path => (fileName "OUTPUT" path).map some
    | none => .ok none
  match a.value? "schema" with
  | some schema => .ok ⟨input, schema, output, a.has "pretty", a.value? "validate"⟩
  | none => .error (.missing "SCHEMA")

def lintRequest (a : Arguments) : Except UsageError LintRequest := do
  let path ← fileName "PATH" (← onlyOperand "PATH" a)
  .ok ⟨path, (a.value? "format").getD "text", a.has "strict", a.has "quiet"⟩

/-- What arguments ask for. -/
def ofArguments (args : List String) : Except UsageError Invocation := do
  let front := args.takeWhile Arguments.looksLikeOption
  let global ← Arguments.read [verboseOption] front
  if front.contains "--" then .error .noCommand
  match args.dropWhile Arguments.looksLikeOption with
  | "apply" :: rest => do
    let a ← Arguments.read applyOptions rest
    .ok ⟨global.has "verbose" || a.has "verbose", .apply (← applyRequest a)⟩
  | "lint" :: rest => do
    let a ← Arguments.read lintOptions rest
    .ok ⟨global.has "verbose" || a.has "verbose", .lint (← lintRequest a)⟩
  | name :: _ => .error (.unknownCommand name)
  | [] => .error .noCommand

end Invocation

end Reshape
