/-
# Reports about files

`Lint.file` looks through one file and `Lint.run` through a file or through all mapping files
below a directory.  The counts of a report are functions of its list of files, so they cannot
disagree with it.

Main statement: `passed_add_failed`, by which no file is counted twice or left out.
-/
import Reshape.Lint.Document
import Reshape.Pathname

namespace Reshape.Lint

/-! ## 1. One file -/

/-- How a file did. -/
inductive Status where
  | ok
  | error
  | warning
deriving DecidableEq, Repr

/-- The name of a status. -/
def Status.name : Status → String
  | ok => "ok"
  | error => "error"
  | warning => "warning"

/-- What is found in a file. -/
structure FileReport where
  /-- The pathname of the file. -/
  path : String
  /-- The file as it is seen from what is linted. -/
  shown : String
  findings : List Finding

namespace FileReport

variable (r : FileReport)

def errors : Nat := (r.findings.filter Finding.isError).length

def warnings : Nat := (r.findings.filter Finding.isWarning).length

/-- The worst of the findings decides. -/
def status : Status :=
  if r.findings.any Finding.isError then .error
  else if r.findings.any Finding.isWarning then .warning
  else .ok

/-- Does a file fail?  Warnings count only in strict runs. -/
def fails (strict : Bool) : Bool :=
  if strict then r.status != .ok else r.status == .error

theorem status_eq_error_iff : r.status = .error ↔ r.errors ≠ 0 := by
  have h : r.findings.any Finding.isError = true ↔ r.errors ≠ 0 := by
    simp [errors, List.filter_eq_nil_iff]
  by_cases he : r.findings.any Finding.isError = true
  · simp [status, he, h.mp he]
  · have h0 : r.errors = 0 := Classical.byContradiction fun hn => he (h.mpr hn)
    simp only [status, he, h0]
    by_cases hw : r.findings.any Finding.isWarning = true <;> simp [hw]

theorem status_eq_ok_iff : r.status = .ok ↔ r.errors = 0 ∧ r.warnings = 0 := by
  have he : r.findings.any Finding.isError = false ↔ r.errors = 0 := by
    simp [errors, List.filter_eq_nil_iff]
  have hw : r.findings.any Finding.isWarning = false ↔ r.warnings = 0 := by
    simp [warnings, List.filter_eq_nil_iff]
  rw [← he, ← hw]
  by_cases h : r.findings.any Finding.isError = true <;>
    by_cases h' : r.findings.any Finding.isWarning = true <;> simp [status, h, h']

/-- The report as a value. -/
def toJson : Json :=
  let finding (f : Finding) : Json :=
    .obj [("severity", .str f.severity.name), ("code", .str f.code), ("file", .str r.path),
      ("path", .str f.path), ("message", .str f.message)]
  .obj ([("file", .str r.shown), ("status", .str r.status.name)] ++
    if r.findings.isEmpty then [] else [("diagnostics", .arr (r.findings.map finding))])

end FileReport

/-- Looks through one file, which is shown as it is seen from `base`. -/
def file (fs : FileSystem) (path base : String) : FileReport where
  path := path
  shown := Pathname.relativeTo base path
  findings :=
    match Source.loadFile fs path with
    | .ok v => v.lint
    | .error e => [.unreadable e]

/-! ## 2. Mapping files -/

/-- The extensions of mapping files. -/
def extensions : List String := ["json", "yaml", "yml"]

/-- Does a pathname look like that of a mapping file? -/
def isMappingFile (path : String) : Bool :=
  match Pathname.extension? path with
  | some e => extensions.contains e
  | none => false

/-- Does a list of names come before another, or at the same place?  Names are compared one by
one. -/
def namesLe : List String → List String → Bool
  | [], _ => true
  | _ :: _, [] => false
  | a :: as, b :: bs => if a = b then namesLe as bs else decide (a < b)

/-- The pathnames of the mapping files that a pathname leads to: the file itself, or all below
a directory, ordered by their names one by one. -/
def mappingFiles (fs : FileSystem) (path : String) : List String :=
  match fs.find? path with
  | none => []
  | some (.file _) => if isMappingFile path then [path] else []
  | some (.directory es) =>
    let found := (FileItem.filesOf es).filter fun names =>
      isMappingFile (names.getLast?.getD "")
    (found.mergeSort namesLe).map fun names => names.foldl Pathname.join path

/-! ## 3. Reports -/

/-- What is found in all files. -/
structure Report where
  path : String
  /-- Do warnings count as failures? -/
  strict : Bool
  files : List FileReport

namespace Report

variable (r : Report)

def filesChecked : Nat := r.files.length

def failed : Nat := (r.files.filter fun f => f.fails r.strict).length

def passed : Nat := r.filesChecked - r.failed

def errors : Nat := (r.files.map FileReport.errors).foldr (· + ·) 0

def warnings : Nat := (r.files.map FileReport.warnings).foldr (· + ·) 0

/-- Was no error found? -/
def isOk : Bool := r.errors == 0

/-- Is the run a success?  In strict runs warnings are failures too. -/
def succeeds : Bool := r.isOk && (!r.strict || r.warnings == 0)

theorem failed_le : r.failed ≤ r.filesChecked := List.length_filter_le _ _

theorem passed_add_failed : r.passed + r.failed = r.filesChecked :=
  Nat.sub_add_cancel r.failed_le

/-- The report as a value. -/
def toJson : Json :=
  .obj [("path", .str r.path), ("files_checked", .int r.filesChecked),
    ("passed", .int r.passed), ("failed", .int r.failed), ("errors", .int r.errors),
    ("warnings", .int r.warnings), ("results", .arr (r.files.map FileReport.toJson))]

end Report

/-- Looks through a file or a directory. -/
def run (fs : FileSystem) (path : String) (strict : Bool) : Report where
  path := path
  strict := strict
  files := (mappingFiles fs path).map fun f => file fs f path

end Reshape.Lint
