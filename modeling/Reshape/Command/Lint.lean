/-
# The command `lint`

The command prints a report, as a value or as a text for people: a line for each file with a
mark for how it did, a line for each finding, and a line with the verdict.  A quiet run leaves
out what is no error.
-/
import Reshape.Command.Log
import Reshape.Command.Outcome
import Reshape.Command.Request
import Reshape.Json.Printer
import Reshape.Lint.Report

namespace Reshape

/-! ## 1. Marks -/

namespace Mark

def green : String := "\x1b[32m"

def yellow : String := "\x1b[33m"

def red : String := "\x1b[31m"

/-- The end of a colour. -/
def plain : String := "\x1b[0m"

/-- The mark of a status. -/
def ofStatus : Lint.Status → String
  | .ok => green ++ "✓" ++ plain
  | .warning => yellow ++ "⚠" ++ plain
  | .error => red ++ "✗" ++ plain

/-- The colour of a severity. -/
def ofSeverity : Severity → String
  | .error => red
  | .warning => yellow

end Mark

/-! ## 2. Texts -/

/-- The line of a finding. -/
def Finding.line (f : Finding) : String :=
  "    " ++ Mark.ofSeverity f.severity ++ s!"{f.severity.name}[{f.code}]" ++ Mark.plain ++
    s!": {f.path} - {f.message}"

namespace Lint

/-- The lines of a file. -/
def FileReport.lines (quiet : Bool) (r : FileReport) : List String :=
  let head := s!"  {Mark.ofStatus r.status} {r.shown}"
  let shown := r.findings.filter fun f => !quiet || f.isError
  (if quiet && r.status == .ok then [] else [head]) ++ shown.map Finding.line

/-- The line with the verdict. -/
def Report.verdict (r : Report) : String :=
  if r.succeeds then
    Mark.green ++ s!"✓ {r.filesChecked} files checked, all passed" ++ Mark.plain
  else
    Mark.red ++ s!"✗ {r.filesChecked} files checked: {r.passed} passed, {r.failed} failed " ++
      s!"({r.errors} errors, {r.warnings} warnings)" ++ Mark.plain

/-- The lines of a report for people. -/
def Report.lines (quiet : Bool) (r : Report) : List String :=
  (if quiet then [] else [s!"Linting {r.path} ...", ""]) ++
    r.files.flatMap (FileReport.lines quiet) ++ ["", r.verdict]

/-- The notice that all files have been looked through. -/
def Report.finishedNotice (r : Report) : Notice :=
  .detail "linter" s!"lint finished files={r.filesChecked} failed={r.failed}"

end Lint

/-! ## 3. Runs -/

namespace LintRequest

variable (r : LintRequest) (fs : FileSystem)

/-- The lines of a report in the format of the request. -/
def render (report : Lint.Report) : List String :=
  if r.format = "json" then [report.toJson.pretty] else report.lines r.quiet

/-- Runs a request. -/
def outcome (level : LogLevel) : Outcome :=
  if !fs.contains r.path then ⟨2, [], [s!"Error: path not found: {r.path}"], fs⟩
  else
    let report := Lint.run fs r.path r.strict
    ⟨if report.succeeds then 0 else 1, r.render report,
      Log.lines level [report.finishedNotice], fs⟩

end LintRequest

end Reshape
