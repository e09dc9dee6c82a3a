/-
# The verdict of linting

How linting went is told twice.  Every file has a status, by which files are counted as failed or
passed; and the findings of all files are counted, by which the command ends with one exit code or
another.  A file fails exactly if it has a finding that counts as a failure (`fails_iff`), so some
file fails exactly if there is such a finding in any of them (`failed_eq_zero_iff`), and the two
accounts agree, in strict runs and in others.

Main statement: `verdicts_agree`.
-/
import Mathlib.Algebra.Order.Ring.Nat
import Reshape.Command.Lint

namespace Reshape

namespace Lint

/-! ## 1. One file -/

namespace FileReport

variable (f : FileReport)

/-- The number of findings that count as failures; warnings do so in strict runs only. -/
def failures (strict : Bool) : Nat := f.errors + if strict then f.warnings else 0

/-- **A file fails exactly if it has a finding that counts as a failure**, though only its status
is looked at. -/
theorem fails_iff (strict : Bool) : f.fails strict = true ↔ 0 < f.failures strict := by
  cases strict with
  | true =>
    have hstatus : f.fails true = true ↔ f.status ≠ .ok := bne_iff_ne
    have hcount : f.failures true = f.errors + f.warnings := rfl
    rw [hstatus, ne_eq, f.status_eq_ok_iff, hcount]
    omega
  | false =>
    have hstatus : f.fails false = true ↔ f.status = .error := beq_iff_eq
    have hcount : f.failures false = f.errors := rfl
    rw [hstatus, f.status_eq_error_iff, hcount]
    omega

end FileReport

/-! ## 2. All files -/

namespace Report

variable (r : Report)

/-- The same files under another rule about warnings. -/
def under (strict : Bool) (r : Report) : Report := { r with strict := strict }

/-- The number of findings that count as failures, in all files. -/
def failures : Nat := r.errors + if r.strict then r.warnings else 0

/-- The totals are those of the files one by one. -/
theorem failures_eq_sum : r.failures = (r.files.map fun f => f.failures r.strict).sum := by
  have hsum : ∀ files : List FileReport,
      (files.map FileReport.errors).sum +
          (if r.strict then (files.map FileReport.warnings).sum else 0) =
        (files.map fun f => f.failures r.strict).sum := by
    intro files
    induction files with
    | nil => simp
    | cons f files ih =>
      rw [List.map_cons, List.map_cons, List.map_cons, List.sum_cons, List.sum_cons, List.sum_cons,
        ← ih, FileReport.failures]
      split <;> omega
  exact hsum r.files

/-- A run is a success exactly if nothing counts as a failure. -/
theorem succeeds_iff : r.succeeds = true ↔ r.failures = 0 := by
  rw [succeeds, isOk, failures]
  cases r.strict <;> simp

/-- **Some file fails exactly if something counts as a failure.** -/
theorem failed_eq_zero_iff : r.failed = 0 ↔ r.failures = 0 := by
  rw [failures_eq_sum, failed, List.length_eq_zero_iff, List.filter_eq_nil_iff,
    List.sum_eq_zero_iff_forall_eq_nat, List.forall_mem_map]
  refine forall₂_congr fun f _ => ?_
  rw [f.fails_iff r.strict, Nat.pos_iff_ne_zero, Decidable.not_not]

/-- The numbers that a report tells: of files, of those that pass and fail, of errors and of
warnings. -/
def totals : List Nat := [r.filesChecked, r.passed, r.failed, r.errors, r.warnings]

/-- **What passes in a strict run passes in any run**, with the same numbers. -/
theorem totals_under (h : (r.under true).failed = 0) (strict : Bool) :
    (r.under strict).failed = 0 ∧ (r.under strict).totals = (r.under true).totals := by
  have hnone : (r.under strict).failed = 0 := by
    have hstrict : r.errors + r.warnings = 0 := (failed_eq_zero_iff _).mp h
    refine (failed_eq_zero_iff _).mpr ?_
    cases strict with
    | true => exact hstrict
    | false => exact (Nat.add_eq_zero_iff.mp hstrict).1
  refine ⟨hnone, ?_⟩
  have hpassed : (r.under strict).passed = (r.under true).passed := by
    rw [passed, passed, hnone, h]
    rfl
  rw [totals, totals, hpassed, hnone, h]
  rfl

end Report

end Lint

/-! ## 3. The command -/

variable {q : LintRequest} {fs : FileSystem} {level : LogLevel}

theorem LintRequest.exitCode_eq_zero_iff : (q.outcome fs level).exitCode = 0 ↔
    fs.contains q.path = true ∧ (Lint.run fs q.path q.strict).succeeds = true := by
  rw [outcome]
  cases fs.contains q.path with
  | false => simp
  | true => cases h : (Lint.run fs q.path q.strict).succeeds <;> simp [h]

namespace Lint

/-- **The accounts of a verdict agree.**  No file is counted as both passed and failed, or as
neither.  No file fails exactly if the totals of errors and of warnings say that the run is a
success, and exactly then the command ends with the exit code zero, if there is something to look
through.  Files that pass in a strict run pass in a run that is not, with the same numbers. -/
theorem verdicts_agree (r : Report) :
    r.failed ≤ r.filesChecked ∧ r.passed + r.failed = r.filesChecked ∧
    (r.succeeds = true ↔ r.failed = 0) ∧
    (∀ (q : LintRequest) (fs : FileSystem) (level : LogLevel),
      (q.outcome fs level).exitCode = 0 ↔
        fs.contains q.path = true ∧ (run fs q.path q.strict).failed = 0) ∧
    ((r.under true).failed = 0 →
      (r.under false).failed = 0 ∧ (r.under false).totals = (r.under true).totals) := by
  have hverdict : ∀ r : Report, r.succeeds = true ↔ r.failed = 0 := fun r => by
    rw [r.succeeds_iff, r.failed_eq_zero_iff]
  refine ⟨r.failed_le, r.passed_add_failed, hverdict r, fun q fs level => ?_,
    fun h => r.totals_under h false⟩
  rw [LintRequest.exitCode_eq_zero_iff, hverdict]

/-- Two files, of which the first has no findings. -/
def twoFiles (second : List Finding) : Report :=
  ⟨"maps", false, [⟨"maps/a.json", "a.json", []⟩, ⟨"maps/b.yml", "b.yml", second⟩]⟩

/-- A warning about a transform of the first node. -/
def unknownShout : Finding :=
  .unknownTransform (((Document.objectsPlace.index 0).key "transform").index 0) "shout"

theorem twoFiles_agree :
    (twoFiles [unknownShout]).succeeds = true ∧
    ((twoFiles [unknownShout]).under true).succeeds = false ∧
    ((twoFiles [unknownShout]).under true).failed = 1 ∧
    ((twoFiles []).under true).failed = 0 ∧
    ((twoFiles []).under false).totals = ((twoFiles []).under true).totals := by
  obtain ⟨-, -, hloose, -, -⟩ := verdicts_agree (twoFiles [unknownShout])
  obtain ⟨-, -, hstrict, -, -⟩ := verdicts_agree ((twoFiles [unknownShout]).under true)
  obtain ⟨-, -, -, -, hpass⟩ := verdicts_agree (twoFiles [])
  have hone : ((twoFiles [unknownShout]).under true).failed = 1 := by decide
  have hnone : ((twoFiles []).under true).failed = 0 := by decide
  refine ⟨hloose.mpr (by decide), ?_, hone, hnone, (hpass hnone).2⟩
  rw [← Bool.not_eq_true, hstrict, hone]
  decide

end Lint

end Reshape
