/-
# Running a command line

Arguments are read into an invocation, and the invocation is run against a file system.
Arguments that cannot be read end the run with a complaint, before any file is looked at.
-/
import Reshape.Command.Apply
import Reshape.Command.Lint

namespace Reshape

/-- How to use the command line. -/
def usage : List String :=
  ["Usage: json-mapping [-v] apply INPUT --schema SCHEMA [--output FILE] [--pretty] " ++
      "[--validate JSON_SCHEMA]",
    "       json-mapping [-v] lint PATH [--format FORMAT] [--strict] [--quiet]"]

namespace Invocation

/-- The level of the log that an invocation asks for. -/
def level (i : Invocation) : LogLevel := if i.verbose then .details else .warnings

/-- Runs an invocation with a log of some level. -/
def outcome (i : Invocation) (fs : FileSystem) (level : LogLevel) : Outcome :=
  match i.request with
  | .apply r => r.outcome .builtin fs level
  | .lint r => r.outcome fs level

end Invocation

/-- How arguments that cannot be read are met. -/
def UsageError.outcome (e : UsageError) (fs : FileSystem) : Outcome :=
  ⟨2, [], [s!"error: {e.message}", ""] ++ usage, fs⟩

/-- Runs a command line; `logged` tells whether there is a log at all. -/
def runCommand (args : List String) (fs : FileSystem) (logged : Bool) : Outcome :=
  match Invocation.ofArguments args with
  | .ok i => i.outcome fs (if logged then i.level else .off)
  | .error e => e.outcome fs

end Reshape
