/-
# The errors of transforms

The transforms that are always there fail over their parameters or over the value, never for
want of another transform.  A chain of them therefore has no unknown step: that failure is one
of the registry alone (`onlyFails_applyStep`).
-/
import Reshape.Proofs.Sequence
import Reshape.Transform.Builtin

namespace Reshape

open Reporting

/-- An error other than that of an unknown transform. -/
def TransformError.IsOwn (e : TransformError) : Prop := ∀ name, e ≠ .unknown name

namespace Transform

/-- A transform that fails with errors of its own only. -/
def FailsOwn (t : Transform) : Prop := ∀ v params, OnlyFails TransformError.IsOwn (t v params)

theorem isOwn_invalidArguments (name message : String) :
    (TransformError.invalidArguments name message).IsOwn := by
  intro n h
  cases h

theorem isOwn_failed (name message : String) : (TransformError.failed name message).IsOwn := by
  intro n h
  cases h

/-! ## 1. By the number of parameters -/

theorem failsOwn_nullary {name : String} {f : Json → Except TransformError Json}
    (h : ∀ v e, f v = .error e → e.IsOwn) : FailsOwn (nullary name f) := by
  intro v params
  cases params with
  | nil => exact h v
  | cons => exact onlyFails_throw (isOwn_invalidArguments _ _)

/-- A transform with a value for every value. -/
theorem failsOwn_of_total {name : String} {f : Json → Except TransformError Json}
    (h : ∀ v, ∃ w, f v = .ok w) : FailsOwn (nullary name f) := by
  refine failsOwn_nullary ?_
  intro v e he
  obtain ⟨w, hw⟩ := h v
  rw [hw] at he
  cases he

theorem failsOwn_unary {name : String} {f : Json → String → Except TransformError Json}
    (h : ∀ v p e, f v p = .error e → e.IsOwn) : FailsOwn (unary name f) := by
  intro v params
  match params with
  | [p] => exact h v p
  | [] => exact onlyFails_throw (isOwn_invalidArguments _ _)
  | _ :: _ :: _ => exact onlyFails_throw (isOwn_invalidArguments _ _)

theorem failsOwn_binary {name : String} {f : Json → String → String → Except TransformError Json}
    (h : ∀ v p q e, f v p q = .error e → e.IsOwn) : FailsOwn (binary name f) := by
  intro v params
  match params with
  | [p, q] => exact h v p q
  | [] => exact onlyFails_throw (isOwn_invalidArguments _ _)
  | [_] => exact onlyFails_throw (isOwn_invalidArguments _ _)
  | _ :: _ :: _ :: _ => exact onlyFails_throw (isOwn_invalidArguments _ _)

/-! ## 2. One by one -/

theorem failsOwn_maxValue : FailsOwn maxValue := by
  refine failsOwn_nullary ?_
  intro v e h
  split at h
  · cases h
  · split at h
    · cases h
    · split at h
      · cases h
      · cases h
        exact isOwn_failed _ _
  · cases h

theorem failsOwn_maxDatetime : FailsOwn maxDatetime := by
  refine failsOwn_nullary ?_
  intro v e h
  split at h
  · rcases Result.bind_eq_error.mp h with h | ⟨ts, -, h⟩
    · obtain ⟨before, w, after, -, -, hw⟩ := Result.mapM_eq_error.mp h
      unfold instantOf at hw
      split at hw
      · cases hw
      · cases hw
        exact isOwn_failed _ _
    · cases h
  · cases h

theorem failsOwn_selectRegex : FailsOwn selectRegex := by
  refine failsOwn_unary ?_
  intro v p e h
  split at h
  · cases h
    exact isOwn_invalidArguments _ _
  · split at h
    · cases h
    · cases h

theorem failsOwn_hashesFilter : FailsOwn hashesFilter := by
  refine failsOwn_binary ?_
  intro v p q e h
  split at h
  · cases h
  · cases h

theorem failsOwn_hashValue : FailsOwn hashValue := by
  refine failsOwn_unary ?_
  intro v p e h
  split at h
  · cases h
  · cases h

theorem failsOwn_jsonParse : FailsOwn jsonParse := by
  intro v params
  cases params with
  | cons => exact onlyFails_throw (isOwn_invalidArguments _ _)
  | nil =>
    unfold jsonParse
    dsimp only
    split
    · exact onlyFails_pure _
    · split
      · split
        · exact onlyFails_pure _
        · exact onlyFails_pure _
      · intro e h
        cases h

theorem failsOwn_builtin : ∀ entry ∈ TransformRegistry.builtin.entries, FailsOwn entry.2 := by
  simp only [TransformRegistry.builtin, List.forall_mem_cons]
  refine ⟨failsOwn_of_total fun v => ⟨_, rfl⟩, failsOwn_of_total fun v => ⟨_, rfl⟩,
    failsOwn_of_total fun v => ⟨_, rfl⟩, failsOwn_of_total fun v => ⟨_, rfl⟩,
    failsOwn_of_total ?first, failsOwn_of_total ?last, failsOwn_maxValue, failsOwn_maxDatetime,
    failsOwn_maxDatetime, failsOwn_of_total ?uniq, failsOwn_of_total ?size,
    failsOwn_hashesFilter, failsOwn_hashValue, failsOwn_of_total ?values,
    failsOwn_of_total ?keys, failsOwn_selectRegex, failsOwn_jsonParse, by simp⟩
  -- those left take arrays or objects apart, and have a value for every kind of value
  all_goals
    intro v
    cases v <;> exact ⟨_, rfl⟩

/-- **A step that is always there does not fail for want of a transform.** -/
theorem onlyFails_applyStep {step : TransformStep}
    (h : TransformRegistry.builtin.contains step.name = true) (v : Json) :
    OnlyFails TransformError.IsOwn (TransformRegistry.builtin.applyStep v step) := by
  obtain ⟨t, ht⟩ := Option.isSome_iff_exists.mp h
  rw [TransformRegistry.applyStep, ht]
  exact failsOwn_builtin _ (Entries.mem_of_get? ht) v step.params

end Transform

end Reshape
