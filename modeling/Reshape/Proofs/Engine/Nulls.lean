/-
# Nulls as candidates

Every path leads from some input to an array of as many nulls as one likes
(`Path.exists_outcome_nulls`).  Null is nothing to every path, in turn.  A node that is mapped
against null falls back on defaults at every depth: no `*` meets a value and no condition is
looked up, so that nothing but a transform can fail (`onlyFails_mapNode_null`).
-/
import Reshape.Proofs.Engine.Candidates
import Reshape.Proofs.Engine.Failure
import Reshape.Proofs.Path.Resolution

namespace Reshape

/-! ## 1. Inputs for a path -/

namespace Path

variable {v : Json}

/-- A value below objects, one for each segment that takes a child. -/
def wrap (v : Json) : List String → Json
  | [] => v
  | segment :: rest => if segment = "" then wrap v rest else .obj [(segment, wrap v rest)]

theorem wrap_ne_null (h : v ≠ .null) (segments : List String) : wrap v segments ≠ .null := by
  induction segments with
  | nil => exact h
  | cons segment rest ih =>
    rw [wrap]
    split
    · exact ih
    · exact Json.noConfusion

theorem follow_wrap (h : v ≠ .null) (segments : List String) :
    follow segments (some (wrap v segments)) = some v := by
  induction segments with
  | nil => exact present_some h
  | cons segment rest ih =>
    rw [follow, present_some (wrap_ne_null h _)]
    dsimp only
    by_cases he : segment = ""
    · rw [wrap, if_pos he, if_pos he, ih]
    · have hchild : child? segment (.obj [(segment, wrap v rest)]) = some (wrap v rest) := by
        rw [child?, Entries.get?_cons, if_pos rfl]
      rw [wrap, if_neg he, if_neg he, hchild, ih]

/-- From null no path leads anywhere. -/
theorem outcome_null (p : Path) : p.outcome .null = .ok none := result_resolveFrom_absent rfl

/-- Every path leads from some input to an array of nulls of any length. -/
theorem exists_outcome_nulls (p : Path) (k : Nat) :
    ∃ input, p.outcome input = .ok (some (.arr (List.replicate k .null))) := by
  have hne : Json.arr (List.replicate k .null) ≠ .null := Json.noConfusion
  obtain ⟨segments⟩ := p
  by_cases hw : wildcard ∈ segments
  · -- behind the first `*` the nulls stay nulls, whatever is left of the path
    obtain ⟨front, rest, rfl, hfront⟩ := List.eq_append_cons_of_mem hw
    refine ⟨wrap (.arr (List.replicate k .null)) front, ?_⟩
    have hitems : (List.replicate k Json.null).mapM ((behind rest).outcome ·) =
        .ok (List.replicate (List.replicate k Json.null).length none) :=
      Result.mapM_eq_ok.mpr <| Result.forall₂_replicate fun x hx => by
        rw [List.eq_of_mem_replicate hx, outcome_null]
    rw [outcome, resolve, result_resolveFrom_append hfront, follow_wrap hne,
      result_resolveFrom_wildcard, hitems]
    simp [Except.map]
  · refine ⟨wrap (.arr (List.replicate k .null)) segments, ?_⟩
    rw [outcome_eq_follow hw, follow_wrap hne]

end Path

namespace Engine

open Reporting

variable {e : Engine} {info : NodeInfo} {params : Parameters}

/-! ## 2. Nodes on null -/

theorem result_resolve_of_outcome {path : Path} {input : Json} {found : Option Json}
    (h : path.outcome input = .ok found) : (resolve path input).result = .ok found :=
  Result.mapError_eq_ok.mpr h

/-- What a node with a path makes of null is its default. -/
theorem result_found_null (path : Path) (default : Json)
    (make : Json → Reporting MappingError Json) :
    (do match ← resolve path .null with
        | none => pure default
        | some found => make found).result = .ok default := by
  rw [result_bind_of_ok (result_resolve_of_outcome path.outcome_null)]
  rfl

/-- A transform fails. -/
def IsTransformError (err : MappingError) : Prop := ∃ te, err = .transform te

theorem onlyFails_transform (e : Engine) (info : NodeInfo) (v : Json) :
    OnlyFails IsTransformError (e.transform info v) := by
  intro err h
  obtain ⟨te, -, rfl⟩ := Result.mapError_eq_error.mp h
  exact ⟨te, rfl⟩

theorem onlyFails_of_ok {P : MappingError → Prop} {x : Reporting MappingError Json} {v : Json}
    (h : x.result = .ok v) : OnlyFails P x := by
  intro err he
  rw [h] at he
  cases he

theorem onlyFails_mapFields_null {ns : List Node}
    (h : ∀ n ∈ ns, OnlyFails IsTransformError (e.mapNode n .null params)) :
    OnlyFails IsTransformError (e.mapFields ns .null params) := by
  rw [mapFields_eq_mapM]
  exact onlyFails_mapM fun n hn => (h n hn).bind fun v => onlyFails_pure _

/-- **Against null a node fails only in a transform**, whatever conditions it has. -/
theorem onlyFails_mapNode_null (n : Node) :
    OnlyFails IsTransformError (e.mapNode n .null params) := by
  induction n using Node.induct_children with
  | step n ih =>
    cases n with
    | value info path =>
      rw [mapNode]
      unfold mapValue
      cases path with
      | none => exact onlyFails_pure _
      | some p => exact onlyFails_of_ok (result_found_null p _ _)
    | nested info fields =>
      rw [mapNode]
      exact (onlyFails_mapFields_null ih).bind fun _ => onlyFails_pure _
    | array info elements =>
      rw [mapNode]
      exact (onlyFails_mapFields_null ih).bind fun _ => onlyFails_transform e info _
    | mergeArrays info paths =>
      rw [mapNode]
      refine OnlyFails.bind ?_ fun _ => onlyFails_transform e info _
      refine OnlyFails.bind (onlyFails_mapM fun p _ => ?_) fun _ => onlyFails_pure _
      intro err he
      rw [result_resolve_of_outcome p.outcome_null] at he
      cases he
    | attributes info path fields | items info path groups | itemsAll info path groups exclude
      | hash info path fields | hashArray info path fields =>
      rw [mapNode]
      exact onlyFails_of_ok (result_found_null path _ _)

/-- So does what a node makes of nulls, when it puts them through no conditions. -/
theorem onlyFails_mapCandidates_null (n : Node) (k : Nat) :
    OnlyFails IsTransformError (e.mapCandidates n (List.replicate k .null) params) := by
  have hfields : ∀ {α : Type} {ns : List Node} {f : Fields → α},
      OnlyFails IsTransformError (do
        let fs ← e.mapFields ns .null params
        pure (f fs)) := fun {_ _ _} =>
    (onlyFails_mapFields_null fun n _ => onlyFails_mapNode_null n).bind fun _ => onlyFails_pure _
  cases n with
  | attributes info path fields =>
    refine OnlyFails.bind (onlyFails_mapM fun c hc => ?_) fun _ => onlyFails_transform e info _
    rw [List.eq_of_mem_replicate hc]
    exact hfields
  | items info path groups =>
    refine OnlyFails.bind (onlyFails_mapM fun c hc => ?_) fun _ => onlyFails_transform e info _
    rw [List.eq_of_mem_replicate hc, mapGroups_eq_mapM]
    exact (onlyFails_mapM fun g _ => hfields).bind fun _ => onlyFails_pure _
  | hash info path fields =>
    refine OnlyFails.bind (onlyFails_mapM fun c hc => ?_) fun _ => onlyFails_pure _
    rw [List.eq_of_mem_replicate hc]
    exact hfields
  | value | nested | itemsAll | array | hashArray | mergeArrays => exact onlyFails_pure _

end Engine

end Reshape
