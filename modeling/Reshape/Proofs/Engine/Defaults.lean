/-
# The defaults of plain values

A plain value falls back on its default in three cases: it has no path, its path leads to
nothing, or its conditions leave nothing of what was found.  In the first two a default that is
a text is a template that is filled once.  In the third what was filled goes through the end of
the ordinary way and is filled once more; that is no difference unless the parameters have put a
placeholder together, out of their own text or out of what stood around them.

Main statement: `mapNode_default`.
-/
import Reshape.Engine
import Reshape.Proofs.Sequence
import Reshape.Proofs.Template.Substitution

namespace Reshape.Engine

open Reporting Template

variable {e : Engine} {info : NodeInfo} {d : String} {path : Path} {input found : Json}
  {params : Parameters}

/-! ## 1. The three ways to a default -/

/-- The default of a node, filled. -/
theorem fill_default (hd : info.default = some (.str d)) (params : Parameters) :
    (info.default.map (fill params)).getD .null = .str (substitute d params) := by
  rw [hd, Option.map_some, Option.getD_some, fill_str]

theorem mapValue_without_path (hd : info.default = some (.str d)) (input : Json)
    (params : Parameters) :
    (e.mapValue info none input params).result = .ok (.str (substitute d params)) := by
  rw [mapValue, fill_default hd]
  rfl

theorem mapValue_absent (hd : info.default = some (.str d)) (params : Parameters)
    (hr : (resolve path input).result = .ok none) :
    (e.mapValue info (some path) input params).result = .ok (.str (substitute d params)) := by
  rw [mapValue, fill_default hd]
  exact result_bind_of_ok hr _

/-- The text that was filled is filled again. -/
theorem mapValue_unmatched (hd : info.default = some (.str d)) (params : Parameters)
    (hr : (resolve path input).result = .ok (some found)) {specs : List ConditionSpec}
    (hs : info.conditions = some specs)
    (hc : (e.conditions.apply found specs).result = .ok none) :
    (e.mapValue info (some path) input params).result =
      .ok (.str (substitute (substitute d params) params)) := by
  rw [mapValue, fill_default hd]
  dsimp only
  rw [result_bind_of_ok hr]
  dsimp only
  rw [hs]
  dsimp only
  rw [result_bind_of_ok hc]
  exact congrArg Except.ok (fill_str params (substitute d params))

/-- **The default of a plain value is filled once where there is nothing to filter**, and once
more where the conditions leave nothing.  It is the same text in all three cases if no
placeholder of a known name is left in what was filled.  Without parameters it is the default
itself. -/
theorem mapNode_default (e : Engine) {info : NodeInfo} {d : String}
    (hd : info.default = some (.str d)) (input : Json) (params : Parameters) :
    (e.mapNode (.value info none) input params).result = .ok (.str (substitute d params)) ∧
    (∀ path, (resolve path input).result = .ok none →
      (e.mapNode (.value info (some path)) input params).result =
        .ok (.str (substitute d params))) ∧
    (∀ path found specs, (resolve path input).result = .ok (some found) →
      info.conditions = some specs → (e.conditions.apply found specs).result = .ok none →
      (e.mapNode (.value info (some path)) input params).result =
        .ok (.str (substitute (substitute d params) params))) ∧
    (Settled params (substitute d params) →
      substitute (substitute d params) params = substitute d params) ∧
    substitute d [] = d := by
  refine ⟨?_, ?_, ?_, substitute_of_settled, substitute_nil d⟩
  · rw [mapNode]
    exact mapValue_without_path hd input params
  · intro path hr
    rw [mapNode]
    exact mapValue_absent hd params hr
  · intro path found specs hr hs hc
    rw [mapNode]
    exact mapValue_unmatched hd params hr hs hc

/-! ## 2. Labels -/

/-- What a label says: by default the key of the entry. -/
def labelInfo (name : String) (conditions : Option (List ConditionSpec)) : NodeInfo :=
  ⟨name, none, conditions, [], some (.str "field_[%key_name%]"), false⟩

/-- The engine of labels. -/
def labelEngine : Engine := ⟨⟨[], ⟨[]⟩, []⟩, ⟨[]⟩, registry {}⟩

/-- Labels of every entry of an object: one without a path, one at a path that leads to nothing
and one whose conditions never match. -/
def labels : Node :=
  .itemsAll ⟨"labels", none, none, [], none, false⟩ (.ofString "")
    [[.value (labelInfo "plain" none) none,
      .value (labelInfo "absent" none) (some (.ofString "name")),
      .value (labelInfo "filtered" (some [])) (some (.ofString ""))]] []

theorem labels_filled :
    (labelInfo "label" (some [])).default = some (.str "field_[%key_name%]") ∧
    (resolve (.ofString "name") (.int 1)).result = .ok none ∧
    (resolve (.ofString "") (.int 1)).result = .ok (some (.int 1)) ∧
    (labelEngine.conditions.apply (.int 1) []).result = .ok none ∧
    Settled [("key_name", "Email")] (substitute "field_[%key_name%]" [("key_name", "Email")]) ∧
    ∀ path ∈ [none, some (Path.ofString "name"), some (Path.ofString "")],
      (labelEngine.mapNode (.value (labelInfo "label" (some [])) path) (.int 1)
        [("key_name", "Email")]).result = .ok (.str "field_email") := by
  have hd : (labelInfo "label" (some [])).default = some (.str "field_[%key_name%]") := rfl
  have hfill : substitute "field_[%key_name%]" [("key_name", "Email")] = "field_email" := by
    decide +kernel
  have hpieces : pieces "field_email".toList = [.text "field_email".toList] := by decide +kernel
  have hsettled : Settled [("key_name", "Email")]
      (substitute "field_[%key_name%]" [("key_name", "Email")]) := by
    rw [hfill]
    intro name h
    rw [hpieces] at h
    simp at h
  have habsent : (resolve (.ofString "name") (.int 1)).result = .ok none := rfl
  obtain ⟨hplain, hmissing, hfiltered, honce, -⟩ :=
    mapNode_default labelEngine hd (.int 1) [("key_name", "Email")]
  refine ⟨hd, habsent, rfl, rfl, hsettled, ?_⟩
  simp only [List.forall_mem_cons, List.not_mem_nil, false_imp_iff, implies_true, and_true]
  refine ⟨?_, ?_, ?_⟩
  · rw [hplain, hfill]
  · rw [hmissing _ habsent, hfill]
  · rw [hfiltered (.ofString "") (.int 1) [] rfl rfl rfl, honce hsettled, hfill]

/-- **A key that is a placeholder itself is read as one.**  Where the conditions leave nothing,
the key that was put into the default is looked through for placeholders. -/
theorem labels_filledTwice :
    (labelEngine.mapNode labels (.obj [("[%key_name%]x", .int 1)]) []).result =
      .ok (.arr [.obj [("plain", .str "field_[%key_name%]x"),
        ("absent", .str "field_[%key_name%]x"), ("filtered", .str "field_[%key_name%]xx")]]) := by
  decide +kernel

end Reshape.Engine
