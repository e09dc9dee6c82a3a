/-
# Arrays of different values

Two kinds of nodes collect values into one array: `array`, from its elements, and `merge_arrays`,
from what several paths lead to.  Both keep the first of equal values.  An element at a path that
leads to nothing counts as a null, and nulls are dropped from an `array`; `merge_arrays` passes
over such a path and keeps the nulls that it finds inside arrays.  With the transform `to_array`,
which drops nulls, it is therefore the same as an `array` of plain values at the paths
(`mapNode_array_eq_mergeArrays`).

What either makes is free of repetitions, so the transforms that only remove repetitions, or
repetitions and nulls, change nothing when they run on it first.

Main statement: `mapNode_arrays`.
-/
import Reshape.Proofs.Engine.Fields
import Reshape.Proofs.Json.Dedup

namespace Reshape

/-! ## 1. Steps in front of a transform -/

/-- A node that says the same, with a step in front of what its transform does. -/
def NodeInfo.beginWith (step : TransformStep) (info : NodeInfo) : NodeInfo :=
  { info with transform := some (step :: info.transform.getD []) }

/-- A plain value that stays as it is found. -/
structure NodeInfo.AsFound (info : NodeInfo) : Prop where
  default : info.default = none
  conditions : info.conditions = none
  transform : info.transform = none

namespace Transform

/-- The step that drops nulls and repetitions. -/
def toArrayStep : TransformStep := ⟨"to_array", []⟩

/-- The step that drops repetitions. -/
def uniqArrayStep : TransformStep := ⟨"uniq_array", []⟩

end Transform

namespace Engine

open Reporting Transform

variable {e : Engine} {info info' : NodeInfo} {input : Json} {params : Parameters}

theorem transform_of_step {step : TransformStep} {v w : Json}
    (hi : info'.transform = (info.beginWith step).transform)
    (h : e.transforms.applyStep v step = pure w) : e.transform info' v = e.transform info w := by
  have hchain : e.transforms.apply w (info.transform.getD []) =
      e.transforms.applyOptional w info.transform := by
    cases info.transform <;> rfl
  rw [transform, transform, hi, NodeInfo.beginWith, TransformRegistry.applyOptional,
    TransformRegistry.apply, h, pure_bind, hchain]

theorem transform_toArrayStep (hi : info'.transform = (info.beginWith toArrayStep).transform)
    (hto : Entries.get? "to_array" e.transforms.entries = some toArray) (items : List Json) :
    e.transform info' (.arr items) =
      e.transform info (.arr (Json.dropNulls (Json.dedup items))) := by
  refine transform_of_step hi ?_
  rw [TransformRegistry.applyStep, toArrayStep, hto]
  rfl

theorem transform_uniqArrayStep
    (huniq : Entries.get? "uniq_array" e.transforms.entries = some uniqArray)
    (items : List Json) :
    e.transform (info.beginWith uniqArrayStep) (.arr items) =
      e.transform info (.arr (Json.dedup items)) := by
  refine transform_of_step rfl ?_
  rw [TransformRegistry.applyStep, uniqArrayStep, huniq]
  rfl

/-! ## 2. Values at paths -/

/-- The nodes of plain values at paths. -/
def plainNodes (plain : List (NodeInfo × Path)) : List Node :=
  plain.map fun p => .value p.1 (some p.2)

theorem mapNode_asFound (h : info.AsFound) (path : Path) (input : Json) :
    e.mapNode (.value info (some path)) input [] = (do
      let found ← resolve path input
      pure (found.getD .null)) := by
  rw [mapNode, mapValue, h.default]
  refine bind_congr fun found => ?_
  cases found with
  | none => rfl
  | some v =>
    have hkeep : e.transform info v = pure v := by
      rw [transform, h.transform]
      rfl
    simp only [h.conditions, hkeep, pure_bind]
    cases v <;> rfl

/-- Plain values at paths are what the paths lead to, with null for nothing. -/
theorem mapFields_plainNodes_bind {β : Type} {plain : List (NodeInfo × Path)}
    (h : ∀ p ∈ plain, p.1.AsFound) (k : List Json → Reporting MappingError β) :
    (e.mapFields (plainNodes plain) input [] >>= fun fs => k (fs.map Prod.snd)) =
      (plain.map Prod.snd).mapM (fun path => resolve path input) >>= fun found =>
        k (found.map fun v => v.getD .null) := by
  induction plain generalizing k with
  | nil => rw [plainNodes, List.map_nil, mapFields, pure_bind]; rfl
  | cons p plain ih =>
    have hrest := ih (fun q hq => h q (List.mem_cons_of_mem p hq))
    rw [plainNodes, List.map_cons, ← plainNodes, mapFields,
      mapNode_asFound (h p List.mem_cons_self), List.map_cons, List.mapM_cons]
    simp only [bind_assoc, pure_bind, List.map_cons]
    exact bind_congr fun v => hrest fun vs => k (v.getD .null :: vs)

/-- Paths that lead to nothing add nothing but nulls. -/
theorem dropNulls_flatMap_getD (found : List (Option Json)) :
    Json.dropNulls ((found.map fun v => v.getD .null).flatMap Json.candidates) =
      Json.dropNulls (found.flatMap fun v => (v.map Json.candidates).getD []) := by
  induction found with
  | nil => rfl
  | cons v found ih =>
    rw [Json.dropNulls, Json.dropNulls] at ih ⊢
    rw [List.map_cons, List.flatMap_cons, List.flatMap_cons, List.filter_append,
      List.filter_append, ih]
    cases v <;> rfl

/-- **An array of plain values is a merge of their paths without nulls.** -/
theorem mapNode_array_eq_mergeArrays
    (hto : Entries.get? "to_array" e.transforms.entries = some toArray)
    (hi : info'.transform = (info.beginWith toArrayStep).transform)
    {plain : List (NodeInfo × Path)} (h : ∀ p ∈ plain, p.1.AsFound) (input : Json) :
    e.mapNode (.array info (plainNodes plain)) input [] =
      e.mapNode (.mergeArrays info' (plain.map Prod.snd)) input [] := by
  have hflat : ∀ fs : Fields,
      (fs.flatMap fun f => f.2.candidates) = (fs.map Prod.snd).flatMap Json.candidates :=
    fun fs => by rw [List.flatMap_map]
  rw [mapNode, mapNode, mergePaths, bind_assoc]
  simp only [hflat, pure_bind]
  rw [mapFields_plainNodes_bind h fun vs =>
    e.transform info (.arr (Json.dropNulls (Json.dedup (vs.flatMap Json.candidates))))]
  refine bind_congr fun found => ?_
  rw [transform_toArrayStep hi hto, Json.dedup_dedup, Json.dropNulls_dedup,
    Json.dropNulls_dedup, dropNulls_flatMap_getD]

/-! ## 3. What is without repetitions already -/

theorem mapNode_array_beginWith (hto : Entries.get? "to_array" e.transforms.entries = some toArray)
    (info : NodeInfo) (elements : List Node) (input : Json) (params : Parameters) :
    e.mapNode (.array (info.beginWith toArrayStep) elements) input params =
      e.mapNode (.array info elements) input params := by
  rw [mapNode, mapNode]
  refine bind_congr fun fs => ?_
  have hdistinct := Json.unrepeated_dropNulls
    (Json.unrepeated_dedup (fs.flatMap fun f => f.2.candidates))
  dsimp only
  rw [transform_toArrayStep rfl hto, Json.dedup_of_unrepeated hdistinct,
    Json.dropNulls_dropNulls]

theorem mapNode_mergeArrays_beginWith
    (huniq : Entries.get? "uniq_array" e.transforms.entries = some uniqArray) (info : NodeInfo)
    (paths : List Path) (input : Json) (params : Parameters) :
    e.mapNode (.mergeArrays (info.beginWith uniqArrayStep) paths) input params =
      e.mapNode (.mergeArrays info paths) input params := by
  rw [mapNode, mapNode]
  refine bind_congr fun merged => ?_
  rw [transform_uniqArrayStep huniq, Json.dedup_dedup]

theorem unrepeated_of_mapNode_array {elements : List Node} {v : Json}
    (ht : info.transform = none)
    (h : (e.mapNode (.array info elements) input params).result = .ok v) :
    ∃ items, v = .arr items ∧ .null ∉ items ∧ Json.Unrepeated items := by
  rw [mapNode] at h
  obtain ⟨fs, -, h⟩ := result_bind_eq_ok.mp h
  rw [transform, ht] at h
  cases h
  exact ⟨_, rfl, Json.null_not_mem_dropNulls _,
    Json.unrepeated_dropNulls (Json.unrepeated_dedup _)⟩

/-- **The two kinds of nodes that collect values agree**, where `to_array` and `uniq_array` are
what they always are.  An array of plain values at paths is, with its notices and its error, the
merge of the paths that begins its transform with `to_array`.  An array without a transform holds
no null and no value twice.  So `to_array` in front of the transform of an array changes nothing,
and neither does `uniq_array` in front of that of a merge. -/
theorem mapNode_arrays (e : Engine)
    (hto : Entries.get? "to_array" e.transforms.entries = some toArray)
    (huniq : Entries.get? "uniq_array" e.transforms.entries = some uniqArray) :
    (∀ (info info' : NodeInfo) (plain : List (NodeInfo × Path)) (input : Json),
      info'.transform = (info.beginWith toArrayStep).transform → (∀ p ∈ plain, p.1.AsFound) →
      e.mapNode (.array info (plainNodes plain)) input [] =
        e.mapNode (.mergeArrays info' (plain.map Prod.snd)) input []) ∧
    (∀ (info : NodeInfo) (elements : List Node) (input : Json) (params : Parameters) (v : Json),
      info.transform = none → (e.mapNode (.array info elements) input params).result = .ok v →
      ∃ items, v = .arr items ∧ .null ∉ items ∧ Json.Unrepeated items) ∧
    (∀ (info : NodeInfo) (elements : List Node) (input : Json) (params : Parameters),
      e.mapNode (.array (info.beginWith toArrayStep) elements) input params =
        e.mapNode (.array info elements) input params) ∧
    ∀ (info : NodeInfo) (paths : List Path) (input : Json) (params : Parameters),
      e.mapNode (.mergeArrays (info.beginWith uniqArrayStep) paths) input params =
        e.mapNode (.mergeArrays info paths) input params :=
  ⟨fun _ _ _ input hi h => mapNode_array_eq_mergeArrays hto hi h input,
    fun _ _ _ _ _ ht h => unrepeated_of_mapNode_array ht h,
    mapNode_array_beginWith hto, mapNode_mergeArrays_beginWith huniq⟩

/-- Where the colors of a house are. -/
def colorPaths : List (NodeInfo × Path) :=
  ["walls", "roof", "door"].map fun name => (.named name, .ofString name)

/-- A house without a roof; one of its colors is written in two ways. -/
def house : Json :=
  .obj [("walls", .arr [.str "red", .null, .obj [("hue", .int 1), ("sat", .int 2)]]),
    ("door", .arr [.obj [("sat", .int 2), ("hue", .int 1)], .str "red", .int 4])]

theorem house_arrays :
    Entries.get? "to_array" builtin.transforms.entries = some toArray ∧
    Entries.get? "uniq_array" builtin.transforms.entries = some uniqArray ∧
    (∀ p ∈ colorPaths, p.1.AsFound) ∧
    (builtin.mapNode (.array (.named "colors") (plainNodes colorPaths)) house []).result =
      .ok (.arr [.str "red", .obj [("hue", .int 1), ("sat", .int 2)], .int 4]) ∧
    builtin.mapNode (.array (.named "colors") (plainNodes colorPaths)) house [] =
      builtin.mapNode (.mergeArrays ((NodeInfo.named "colors").beginWith toArrayStep)
        (colorPaths.map Prod.snd)) house [] ∧
    ∃ items, Json.arr [.str "red", .obj [("hue", .int 1), ("sat", .int 2)], .int 4] =
      .arr items ∧ .null ∉ items ∧ Json.Unrepeated items := by
  have hplain : ∀ p ∈ colorPaths, p.1.AsFound := by
    intro p hp
    obtain ⟨name, -, rfl⟩ := List.mem_map.mp hp
    exact ⟨rfl, rfl, rfl⟩
  have hrun : (builtin.mapNode (.array (.named "colors") (plainNodes colorPaths)) house
      []).result = .ok (.arr [.str "red", .obj [("hue", .int 1), ("sat", .int 2)], .int 4]) := by
    decide +kernel
  obtain ⟨hmerge, hdistinct, -, -⟩ := mapNode_arrays builtin rfl rfl
  exact ⟨rfl, rfl, hplain, hrun, hmerge _ _ _ house rfl hplain, hdistinct _ _ _ _ _ rfl hrun⟩

end Engine

end Reshape
