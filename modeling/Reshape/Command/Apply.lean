/-
# The command `apply`

A run of `apply` is a chain of stages: load the mapping document, make its engine ready, load
the input, map it, and check the output if a JSON Schema is given.  The first stage that fails
ends the run, with an exit code and a wording of its own; only behind the last stage is
anything printed or written.  What reads the texts and what a JSON Schema checks is given to a
run (`Libraries`).

Main statements: a run that fails prints nothing and leaves the file system as it was.
-/
import Reshape.Command.Log
import Reshape.Command.Outcome
import Reshape.Command.Request
import Reshape.Engine
import Reshape.JsonSchema.Validator
import Reshape.Source

namespace Reshape

/-! ## 1. Failures -/

/-- The stage at which a run fails, and why. -/
inductive ApplyFailure where
  | mapping (e : LoadError)
  | engine (e : MappingError)
  | input (e : LoadError)
  | run (e : MappingError)
  | outputSchema (e : LoadError)
  | validation (e : ValidationError)
  | writing (path : String) (fault : FileFault)
deriving DecidableEq

namespace ApplyFailure

def exitCode : ApplyFailure → Nat
  | mapping e => e.exitCode
  | engine e => e.exitCode
  | input e => e.exitCode
  | run e => e.exitCode
  | outputSchema e => e.exitCode
  | validation e => e.exitCode
  | writing _ _ => 3

/-- The lines that tell of a failure. -/
def lines : ApplyFailure → List String
  | mapping e => [s!"Error loading mapping: {e.message}"]
  | engine e => [s!"Error: {e.message}"]
  | input e => [s!"Error loading input: {e.message}"]
  | run e => [s!"Error: {e.message}"]
  | outputSchema e => [s!"Error loading output schema: {e.message}"]
  | validation (.invalid violations) =>
    "Validation failed:" :: violations.map fun v => "  " ++ v.text
  | validation e => [s!"Error: {e.message}"]
  | writing path fault => [s!"Error writing to {path}: {fault.message}"]

theorem exitCode_ne_zero (f : ApplyFailure) : f.exitCode ≠ 0 := by
  have load (e : LoadError) : e.exitCode ≠ 0 := by cases e <;> simp [LoadError.exitCode]
  have mapping (e : MappingError) : e.exitCode ≠ 0 := by simp [MappingError.exitCode]
  cases f with
  | mapping e => exact load e
  | engine e => exact mapping e
  | input e => exact load e
  | run e => exact mapping e
  | outputSchema e => exact load e
  | validation e => cases e <;> simp [exitCode, ValidationError.exitCode]
  | writing path fault => simp [exitCode]

end ApplyFailure

/-! ## 2. Stages -/

/-- What a run rests on: the readers of texts, and the checks that JSON Schemas stand for. -/
structure Libraries extends Source.Readers where
  validators : JsonSchema.Validators

/-- The readers and the checks of this library. -/
def Libraries.builtin : Libraries where
  toReaders := .builtin
  validators := JsonSchema.validators

/-- The notice that an engine is ready. -/
def Engine.readyNotice (e : Engine) : Notice :=
  let objects := e.document.objects.length
  let limited := !e.document.limitations.isEmpty
  .detail "mapper" <| "mapping engine ready " ++
    s!"objects={objects} conditions={e.conditions.size} limitations={limited}"

namespace ApplyRequest

variable (L : Libraries) (r : ApplyRequest) (fs : FileSystem)

/-- Loads a source. -/
def stage (failure : LoadError → ApplyFailure) (source : String) : Reporting ApplyFailure Json :=
  Reporting.ofExcept ((Source.load fs source L.toReaders).mapError failure)

/-- Checks the output, if the request says so. -/
def check (mapped : Json) : Reporting ApplyFailure Unit :=
  match r.validate with
  | none => pure ()
  | some source => do
    let schema ← stage L fs .outputSchema source
    Reporting.ofExcept ((validateOutput mapped schema L.validators).mapError .validation)

/-- The output, behind all stages. -/
def mapped : Reporting ApplyFailure Json := do
  let document ← stage L fs .mapping r.schema
  let engine ← Reporting.ofExcept ((Engine.ofJson document {}).mapError .engine)
  Reporting.send engine.readyNotice
  let input ← stage L fs .input r.input
  let output ← (engine.apply input).mapError .run
  r.check L fs output
  pure output

/-- An output as it is written. -/
def render (output : Json) : String := if r.pretty then output.pretty else output.compact

/-! ## 3. Runs -/

/-- How a run ends that fails. -/
def failed (log : List String) (f : ApplyFailure) : Outcome :=
  ⟨f.exitCode, [], log ++ f.lines, fs⟩

/-- How a run ends that has an output. -/
def deliver (log : List String) (text : String) : Outcome :=
  match r.output with
  | none => ⟨0, [text], log, fs⟩
  | some path =>
    match fs.write path text with
    | .ok fs' => ⟨0, [], log, fs'⟩
    | .error fault => failed fs log (.writing path fault)

/-- Runs a request. -/
def outcome (level : LogLevel) : Outcome :=
  let run := r.mapped L fs
  let log := Log.lines level run.notices
  match run.result with
  | .ok output => r.deliver fs log (r.render output)
  | .error f => failed fs log f

theorem outcome_of_ok {level : LogLevel} {output : Json} (h : (r.mapped L fs).result = .ok output) :
    r.outcome L fs level =
      r.deliver fs (Log.lines level (r.mapped L fs).notices) (r.render output) := by
  simp [outcome, h]

theorem outcome_of_error {level : LogLevel} {f : ApplyFailure}
    (h : (r.mapped L fs).result = .error f) :
    r.outcome L fs level = failed fs (Log.lines level (r.mapped L fs).notices) f := by
  simp [outcome, h]

/-- An output that cannot be delivered is not printed, and no file changes. -/
theorem deliver_of_exitCode_ne_zero {log : List String} {text : String}
    (h : (r.deliver fs log text).exitCode ≠ 0) :
    (r.deliver fs log text).printed = [] ∧ (r.deliver fs log text).files = fs := by
  cases ho : r.output with
  | none => simp [deliver, ho] at h
  | some path =>
    cases hw : fs.write path text with
    | ok fs' => simp [deliver, ho, hw] at h
    | error fault => simp [deliver, ho, hw, failed]

/-- A run that fails prints nothing and changes no file. -/
theorem outcome_of_exitCode_ne_zero {level : LogLevel} (h : (r.outcome L fs level).exitCode ≠ 0) :
    (r.outcome L fs level).printed = [] ∧ (r.outcome L fs level).files = fs := by
  cases hm : (r.mapped L fs).result with
  | error f => simp [r.outcome_of_error L fs hm, failed]
  | ok output =>
    rw [r.outcome_of_ok L fs hm] at h ⊢
    exact r.deliver_of_exitCode_ne_zero fs h

end ApplyRequest

end Reshape
