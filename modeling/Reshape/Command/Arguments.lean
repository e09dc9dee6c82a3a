/-
# Command-line arguments

Arguments are read from left to right.  An option is written in full behind two dashes or as
one letter behind a dash; letters may share a dash.  Some options take a value, which stands
behind an equals sign, right behind the letter, or in the next argument.  Whatever else there
is is an operand, and behind two bare dashes everything is.

`Arguments.read` is a fold over the arguments; what it carries along is a `Reading`.
-/
import Reshape.Entries

namespace Reshape

/-! ## 1. Options -/

/-- An option of a command. -/
structure CommandOption where
  name : String
  letter : Option Char := none
  takesValue : Bool := false
deriving DecidableEq, Repr

/-- Why arguments cannot be read. -/
inductive UsageError where
  | unknownOption (text : String)
  | missingValue (name : String)
  | unwantedValue (name : String)
  | repeated (name : String)
  | unexpected (operand : String)
  | missing (operand : String)
  | unknownCommand (name : String)
  | noCommand
  | empty (name : String)
deriving DecidableEq, Repr

def UsageError.message : UsageError → String
  | unknownOption text => s!"unexpected argument '{text}' found"
  | missingValue name => s!"a value is required for '--{name}' but none was supplied"
  | unwantedValue name => s!"unexpected value for '--{name}' found"
  | repeated name => s!"the argument '--{name}' cannot be used multiple times"
  | unexpected operand => s!"unexpected argument '{operand}' found"
  | missing operand => s!"the argument <{operand}> was not provided"
  | unknownCommand name => s!"unrecognized subcommand '{name}'"
  | noCommand => "a subcommand is required but none was supplied"
  | empty name => s!"a value is required for <{name}> but none was supplied"

/-- What arguments say: operands in order, and options with their values; an option that takes
no value has the empty one. -/
structure Arguments where
  operands : List String := []
  options : Entries String := []
deriving DecidableEq, Repr

namespace Arguments

/-- Was an option given? -/
def has (name : String) (a : Arguments) : Bool := Entries.contains name a.options

/-- The value of an option. -/
def value? (name : String) (a : Arguments) : Option String := Entries.get? name a.options

/-! ## 2. Reading -/

/-- How far the reading of arguments has come. -/
structure Reading where
  said : Arguments := {}
  /-- The option whose value comes next. -/
  pending : Option String := none
  /-- Have two bare dashes been met? -/
  onlyOperands : Bool := false

/-- Does an argument look like options?  A lone dash does not. -/
def looksLikeOption (arg : String) : Bool :=
  match arg.toList with
  | '-' :: _ :: _ => true
  | _ => false

/-- Takes note of an option and its value. -/
def Reading.give (name value : String) (r : Reading) : Except UsageError Reading :=
  if r.said.has name then .error (.repeated name)
  else
    let said := { r.said with options := Entries.insert name value r.said.options }
    .ok { r with said := said, pending := none }

/-- Takes note of an option, which may have brought its value with it. -/
def Reading.take (o : CommandOption) (attached : Option String) (r : Reading) :
    Except UsageError Reading :=
  match o.takesValue, attached with
  | true, some value => r.give o.name value
  | true, none =>
    if r.said.has o.name then .error (.repeated o.name)
    else .ok { r with pending := some o.name }
  | false, none => r.give o.name ""
  | false, some _ => .error (.unwantedValue o.name)

/-- An option that is written in full, without the dashes: its name, and the value behind an
equals sign. -/
def splitValue (body : List Char) : String × Option String :=
  let name := String.ofList (body.takeWhile (· != '='))
  match body.dropWhile (· != '=') with
  | _ :: value => (name, some (String.ofList value))
  | [] => (name, none)

/-- Reads letters behind a dash. -/
def Reading.letters (os : List CommandOption) : List Char → Reading → Except UsageError Reading
  | [], r => .ok r
  | c :: cs, r =>
    match os.find? fun o => o.letter == some c with
    | none => .error (.unknownOption s!"-{c}")
    | some o =>
      if o.takesValue then
        match cs with
        | [] => r.take o none
        | '=' :: value => r.take o (some (String.ofList value))
        | value => r.take o (some (String.ofList value))
      else do
        let r ← r.take o none
        Reading.letters os cs r

/-- Reads one argument. -/
def Reading.next (os : List CommandOption) (r : Reading) (arg : String) :
    Except UsageError Reading :=
  if r.onlyOperands then
    .ok { r with said := { r.said with operands := r.said.operands ++ [arg] } }
  else if looksLikeOption arg then
    match r.pending with
    | some name => .error (.missingValue name)
    | none =>
      match arg.toList with
      | ['-', '-'] => .ok { r with onlyOperands := true }
      | '-' :: '-' :: body =>
        let (name, value) := splitValue body
        match os.find? fun o => o.name == name with
        | some o => r.take o value
        | none => .error (.unknownOption s!"--{name}")
      | cs => r.letters os (cs.drop 1)
  else
    match r.pending with
    | some name => r.give name arg
    | none => .ok { r with said := { r.said with operands := r.said.operands ++ [arg] } }

/-- What the arguments of a command with these options say. -/
def read (os : List CommandOption) (args : List String) : Except UsageError Arguments := do
  let r ← args.foldlM (Reading.next os) {}
  match r.pending with
  | some name => .error (.missingValue name)
  | none => .ok r.said

end Arguments

end Reshape
