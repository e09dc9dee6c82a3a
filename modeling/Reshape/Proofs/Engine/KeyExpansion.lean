/-
# Entries as items

A node with `items_all` hands the key of each entry down to its child nodes, as a parameter.  Only
templates read parameters, and without a placeholder in an input only the templates of defaults
do.  So an entry comes to what an `items` node without parameters makes of the value of the
entry, if the defaults of all plain values below have the key filled in beforehand
(`Node.fillDefaults`), however deep they stand.

Main statement: `itemsAll_expands`.
-/
import Reshape.Proofs.Engine.Sets
import Reshape.Proofs.Engine.Simulation
import Reshape.Proofs.Json.Texts
import Reshape.Proofs.Template.Substitution

namespace Reshape

open Reporting Template

/-! ## 1. Defaults with the key filled in -/

/-- What a node says, with the placeholders replaced in the default of a plain value. -/
def NodeInfo.fillDefault (params : Parameters) (k : Option NodeKind) (info : NodeInfo) :
    NodeInfo :=
  match k, info.default with
  | none, some (.str d) => { info with default := some (.str (substitute d params)) }
  | _, _ => info

/-- The node with the placeholders replaced in the defaults of all plain values in its tree. -/
def Node.fillDefaults (params : Parameters) (n : Node) : Node :=
  n.mapInfos (NodeInfo.fillDefault params)

/-- Values without placeholders stay as they are. -/
theorem Template.fill_of_unmarked (params : Parameters) {v : Json} (h : v.AllTexts Unmarked) :
    fill params v = v := by
  cases h with
  | str h => rw [fill_str, substitute_of_settled h.settled]
  | _ => rfl

namespace Engine

variable {e : Engine} {info info' : NodeInfo} {params : Parameters} {v : Json}

/-! ## 2. Templates are all that reads parameters -/

/-- A node of this kind that says this only makes sets and values. -/
structure Plain (k : Option NodeKind) (info : NodeInfo) : Prop where
  kind : k ≠ some .itemsAll
  transform : info.transform = none
  conditions : info.conditions = none

theorem transform_plain {k : Option NodeKind} (h : Plain k info) (v : Json) :
    e.transform info v = pure v := by
  rw [transform, h.transform]
  rfl

theorem filterCandidate_plain {k : Option NodeKind} (h : Plain k info) (v : Json) :
    e.filterCandidate info v = pure (some v) := by
  rw [filterCandidate, h.conditions]

theorem fillDefault_eq (params : Parameters) (k : Option NodeKind) (info : NodeInfo) :
    ∃ default, info.fillDefault params k = { info with default } := by
  unfold NodeInfo.fillDefault
  split
  · exact ⟨_, rfl⟩
  · exact ⟨info.default, rfl⟩

theorem plain_fillDefault {k : Option NodeKind} (h : Plain k info) :
    Plain k (info.fillDefault params k) := by
  obtain ⟨default, hfill⟩ := fillDefault_eq params k info
  rw [hfill]
  exact ⟨h.kind, h.transform, h.conditions⟩

/-- The default of a plain value, filled beforehand or on the way. -/
theorem fill_fillDefault (info : NodeInfo) (params : Parameters) :
    (info.default.map (fill params)).getD .null =
      ((info.fillDefault params none).default.map (fill [])).getD .null := by
  unfold NodeInfo.fillDefault
  split
  · next d hd => rw [hd, Option.map_some, fill_str, Option.map_some, fill_nil]
  · next hd =>
    cases hdefault : info.default with
    | none => rfl
    | some v =>
      rw [Option.map_some, Option.map_some, fill_nil]
      cases v with
      | str d => exact absurd hdefault (hd d rfl)
      | _ => rfl

/-- Parameters are read in the defaults of plain values alone. -/
theorem mapValue_fillDefault (h : Plain none info) (hv : v.AllTexts Unmarked)
    (path : Option Path) :
    e.mapValue info path v params = e.mapValue (info.fillDefault params none) path v [] := by
  have hplain : Plain none (info.fillDefault params none) := plain_fillDefault h
  unfold mapValue
  rw [fill_fillDefault]
  cases path with
  | none => rfl
  | some path =>
    have hfound := Path.follows_allTexts.echoes_resolve path (v := v) (w := v) ⟨rfl, hv⟩
    refine echoes_eq_iff.mp ((hfound.mapError MappingError.notArray).bind fun x? y? hxy => ?_)
    cases hxy with
    | none => exact echoes_pure rfl
    | @some found _ hf =>
      obtain ⟨rfl, hf⟩ := hf
      dsimp only
      rw [h.conditions, hplain.conditions]
      dsimp only
      rw [transform_plain h, transform_plain hplain, pure_bind, pure_bind, fill_of_unmarked _ hf,
        fill_nil]
      exact echoes_pure rfl

/-- Plain nodes under parameters are run in step with nodes in which defaults are filled. -/
theorem simulates_fillDefault (e : Engine) (params : Parameters) :
    e.Simulates (fun k i j => Plain k i ∧ j = i.fillDefault params k)
      (fun v w => v = w ∧ v.AllTexts Unmarked) Eq fun p q => p = params ∧ q = [] where
  congruence := Json.congruence_eq
  found h := h.1
  candidates h := by
    obtain ⟨rfl, h⟩ := h
    exact List.forall₂_same.mpr fun c hc => ⟨rfl, h.candidates hc⟩
  resolve h path := (Path.follows_allTexts.echoes_resolve path h).mapError _
  name {k i j} h := by
    obtain ⟨default, hfill⟩ := fillDefault_eq params k i
    rw [h.2, hfill]
  require {k i j} h := by
    obtain ⟨default, hfill⟩ := fillDefault_eq params k i
    rw [h.2, hfill]
  limits {k i j} h set := by
    obtain ⟨default, hfill⟩ := fillDefault_eq params k i
    rw [h.2, hfill]
  default h := by
    rw [h.2]
    rfl
  filter h v w hvw := by
    obtain ⟨h, rfl⟩ := h
    rw [filterCandidate_plain h, filterCandidate_plain h]
    exact echoes_pure (.some hvw)
  transform h v w hvw := by
    obtain ⟨h, rfl⟩ := h
    rw [transform_plain h, transform_plain h]
    exact echoes_pure hvw
  value h v w hvw p q hp path := by
    obtain ⟨h, rfl⟩ := h
    obtain ⟨rfl, rfl⟩ := hp
    obtain ⟨rfl, hv⟩ := hvw
    rw [mapValue_fillDefault h hv]
    exact echoes_eq_iff.mpr rfl
  entries h := absurd rfl h.1.kind
  withKey h := absurd rfl h.1.kind

/-- Every node in a list of groups, and below, is plain. -/
def PlainGroups (groups : List (List Node)) : Prop :=
  ∀ g ∈ groups, ∀ n ∈ g, ∀ m : Node, m.Within n → Plain m.kind? m.info

/-- Groups with the placeholders replaced in all defaults. -/
def fillGroups (params : Parameters) (groups : List (List Node)) : List (List Node) :=
  groups.map fun g => g.map (Node.fillDefaults params)

/-- **Groups under parameters build the sets of the groups in which defaults are filled.** -/
theorem mapGroups_fillGroups {groups : List (List Node)} (hg : PlainGroups groups)
    (hv : v.AllTexts Unmarked) (limits : List Limit) :
    e.mapGroups groups limits v params = e.mapGroups (fillGroups params groups) limits v [] := by
  have hs := simulates_fillDefault e params
  have hgroups := forall₂_map_of_mem fun g hg' => forall₂_map_of_mem fun n hn =>
    hs.step_of_parallel (Node.parallel_mapInfos fun m hm => ⟨hg g hg' n hn m hm, rfl⟩)
  have hlimits : SameLimits e limits limits := fun set => rfl
  have hecho := hs.echoes_mapGroups hlimits hgroups ⟨rfl, hv⟩ ⟨rfl, rfl⟩
  rw [List.forall₂_eq_eq_eq] at hecho
  exact echoes_eq_iff.mp hecho

/-! ## 3. Entries as items -/

/-- What templates see of the key of an entry: its first fifty characters, as `key_name`. -/
def keyParameters (key : String) : Parameters :=
  [("key_name", String.ofList (key.toList.take 50))]

theorem withKey_nil (key : String) : withKey key [] = keyParameters key := rfl

/-- The node that makes of a single item what an entry with a key comes to. -/
def itemsFor (info : NodeInfo) (groups : List (List Node)) (key : String) : Node :=
  .items info (.ofString "") (fillGroups (keyParameters key) groups)

/-- The sets that an entry comes to. -/
def entrySets (e : Engine) (info : NodeInfo) (groups : List (List Node)) (entry : String × Json) :
    Except MappingError (List Json) :=
  (e.mapGroups groups info.limits entry.2 (withKey entry.1 [])).result

theorem result_itemsAll {path : Path} {groups : List (List Node)} {exclude : List String}
    {input : Json} {entries : Entries Json} (ht : info.transform = none)
    (hf : (resolve path input).result = .ok (some (.obj entries))) :
    (e.mapNode (.itemsAll info path groups exclude) input []).result =
      (((Json.obj entries).openEntries exclude).mapM (e.entrySets info groups)).map
        fun setss => .arr setss.flatten := by
  rw [mapNode, result_bind_of_ok hf]
  have hsets : (fun entry : String × Json =>
      (e.mapGroups groups info.limits entry.2 (withKey entry.1 [])).result) =
        e.entrySets info groups := rfl
  simp only [Json.candidates, List.mapM_cons, List.mapM_nil, result_bind, result_mapM,
    result_openCandidate, result_pure, result_transform_none ht, hsets]
  cases hm : ((Json.obj entries).openEntries exclude).mapM (e.entrySets info groups) with
  | ok setss => simp [Except.map, bind, Except.bind, hm]
  | error err => simp [Except.map, bind, Except.bind, hm]

theorem result_itemsFor {groups : List (List Node)} {entry : String × Json}
    (ht : info'.transform = none) (hc : info'.conditions = none) (hl : info'.limits = info.limits)
    (hg : PlainGroups groups) (hv : entry.2.AllTexts Unmarked) :
    (e.mapNode (itemsFor info' groups entry.1) (.arr [entry.2]) []).result =
      (e.entrySets info groups entry).map .arr := by
  have hf : (resolve (.ofString "") (.arr [entry.2])).result = .ok (some (.arr [entry.2])) := rfl
  rw [itemsFor, mapNode, result_bind_of_ok hf, entrySets, withKey_nil,
    mapGroups_fillGroups hg hv, ← hl]
  simp only [Json.candidates, List.mapM_cons, List.mapM_nil, result_bind, filterCandidate, hc,
    result_pure, result_transform_none ht]
  generalize (fillGroups (keyParameters entry.1) groups) = filled
  cases hm : (e.mapGroups filled info'.limits entry.2 []).result with
  | ok sets => simp [Except.map, bind, Except.bind, hm]
  | error err => simp [Except.map, bind, Except.bind, hm]

/-- **A node with `items_all` is an `items` node key by key.**  Let its path lead to an object
without placeholders in its texts, and let the nodes below neither transform nor filter nor go
through entries themselves.  For each entry that is not excluded, in order, the node has the
sets that an `items` node with the same limits makes of the value of the entry, once the first
fifty characters of the key are filled in for `key_name` in the defaults of all plain values
below.  It fails with the first error of these nodes. -/
theorem itemsAll_expands (e : Engine) {info info' : NodeInfo} {path : Path}
    {groups : List (List Node)} {exclude : List String} {input : Json} {entries : Entries Json}
    (ht : info.transform = none) (ht' : info'.transform = none) (hc' : info'.conditions = none)
    (hl : info'.limits = info.limits)
    (hf : (resolve path input).result = .ok (some (.obj entries))) (hg : PlainGroups groups)
    (hv : ∀ entry ∈ entries, entry.2.AllTexts Unmarked) :
    (∀ v, (e.mapNode (.itemsAll info path groups exclude) input []).result = .ok v ↔
      ∃ setss, List.Forall₂ (fun entry sets =>
          (e.mapNode (itemsFor info' groups entry.1) (.arr [entry.2]) []).result = .ok (.arr sets))
        ((Json.obj entries).openEntries exclude) setss ∧ v = .arr setss.flatten) ∧
    ∀ err, (e.mapNode (.itemsAll info path groups exclude) input []).result = .error err ↔
      ∃ before entry after, (Json.obj entries).openEntries exclude = before ++ entry :: after ∧
        (∀ other ∈ before, ∃ v,
          (e.mapNode (itemsFor info' groups other.1) (.arr [other.2]) []).result = .ok v) ∧
        (e.mapNode (itemsFor info' groups entry.1) (.arr [entry.2]) []).result = .error err := by
  have hitems : ∀ entry ∈ (Json.obj entries).openEntries exclude,
      (e.mapNode (itemsFor info' groups entry.1) (.arr [entry.2]) []).result =
        (e.entrySets info groups entry).map .arr := by
    intro entry hentry
    exact result_itemsFor ht' hc' hl hg (hv entry (List.mem_of_mem_filter hentry))
  have hrun := Result.mapM_eq_map hitems
  rw [result_itemsAll ht hf]
  generalize (Json.obj entries).openEntries exclude = kept at hrun ⊢
  constructor
  · intro v
    rw [Result.map_eq_ok]
    refine exists_congr fun setss => and_congr_left fun _ => ?_
    have hall : List.Forall₂ (fun entry sets =>
          (e.mapNode (itemsFor info' groups entry.1) (.arr [entry.2]) []).result = .ok (.arr sets))
        kept setss ↔ (kept.mapM fun entry =>
          (e.mapNode (itemsFor info' groups entry.1) (.arr [entry.2]) []).result) =
            .ok (setss.map .arr) := by
      rw [Result.mapM_eq_ok, List.forall₂_map_right_iff]
    rw [hall, hrun, Result.map_eq_ok]
    constructor
    · intro h
      exact ⟨setss, h, rfl⟩
    · rintro ⟨setss', h, heq⟩
      have hinj : Function.Injective Json.arr := fun _ _ => Json.arr.inj
      rwa [List.map_injective_iff.mpr hinj heq]
  · intro err
    rw [Result.map_eq_error, ← Result.map_eq_error (f := List.map Json.arr), ← hrun,
      Result.mapM_eq_error]

/-- What nodes without any wishes say, under a name. -/
def bareInfo (name : String) : NodeInfo := ⟨name, none, none, [], none, false⟩

/-- The text of a field, and a label that is made from its key, one level further down. -/
def fieldGroups : List (List Node) :=
  [[.value (bareInfo "text") (some (.ofString "text")),
    .nested (bareInfo "about")
      [.value { bareInfo "label" with default := some (.str "field_[%key_name%]") } none]]]

/-- An engine without conditions and limitations, for fields. -/
def fieldEngine : Engine := ⟨⟨[], ⟨[]⟩, []⟩, ⟨[]⟩, registry {}⟩

/-- Fields with their texts; the last key is longer than templates see. -/
def fieldTexts : Entries Json :=
  [("Email", .obj [("text", .str "a[b]%c")]), ("Id", .obj []),
    ("Phone_number_of_the_family_on_the_second_floor_behind_the_garden", .obj [])]

theorem fieldGroups_expand :
    (bareInfo "fields").transform = none ∧ (bareInfo "fields").conditions = none ∧
    (resolve (.ofString "") (.obj fieldTexts)).result = .ok (some (.obj fieldTexts)) ∧
    PlainGroups fieldGroups ∧ (∀ entry ∈ fieldTexts, entry.2.AllTexts Unmarked) ∧
    fillGroups (keyParameters "Email") fieldGroups =
      [[.value (bareInfo "text") (some (.ofString "text")),
        .nested (bareInfo "about")
          [.value { bareInfo "label" with default := some (.str "field_email") } none]]] ∧
    ∃ setss, List.Forall₂ (fun entry sets =>
        (fieldEngine.mapNode (itemsFor (bareInfo "field") fieldGroups entry.1) (.arr [entry.2])
          []).result = .ok (.arr sets))
      ((Json.obj fieldTexts).openEntries ["id"]) setss ∧
      Json.arr [
        .obj [("text", .str "a[b]%c"), ("about", .obj [("label", .str "field_email")])],
        .obj [("text", .null), ("about", .obj [("label",
          .str "field_phone_number_of_the_family_on_the_second_floor_beh")])]] =
          .arr setss.flatten := by
  have hbare : ∀ name default path, ∀ m : Node,
      m.Within (.value { bareInfo name with default } path) → Plain m.kind? m.info := by
    intro name default path
    exact Node.forall_within ⟨by simp [Node.kind?], rfl, rfl⟩ (by simp [Node.children])
  have hg : PlainGroups fieldGroups := by
    simp only [PlainGroups, fieldGroups, List.forall_mem_cons, List.not_mem_nil, false_imp_iff,
      implies_true, and_true]
    refine ⟨hbare "text" none _, Node.forall_within ⟨by simp [Node.kind?], rfl, rfl⟩ ?_⟩
    simp only [Node.children, List.forall_mem_cons, List.not_mem_nil, false_imp_iff,
      implies_true, and_true]
    exact hbare "label" _ none
  have hv : ∀ entry ∈ fieldTexts, entry.2.AllTexts Unmarked := by
    have hnone : (Json.obj []).AllTexts Unmarked := .obj (by simp)
    have htext : Unmarked "a[b]%c" := by
      unfold Unmarked
      decide +kernel
    simp only [fieldTexts, List.forall_mem_cons, List.not_mem_nil, false_imp_iff, implies_true,
      and_true]
    refine ⟨.obj ?_, hnone, hnone⟩
    simp only [List.forall_mem_cons, List.not_mem_nil, false_imp_iff, implies_true, and_true]
    exact .str htext
  have hrun : (fieldEngine.mapNode (.itemsAll (bareInfo "fields") (.ofString "") fieldGroups
      ["id"]) (.obj fieldTexts) []).result = .ok (.arr [
        .obj [("text", .str "a[b]%c"), ("about", .obj [("label", .str "field_email")])],
        .obj [("text", .null), ("about", .obj [("label",
          .str "field_phone_number_of_the_family_on_the_second_floor_beh")])]]) := by
    decide +kernel
  have hfill : fillGroups (keyParameters "Email") fieldGroups =
      [[.value (bareInfo "text") (some (.ofString "text")),
        .nested (bareInfo "about")
          [.value { bareInfo "label" with default := some (.str "field_email") } none]]] := by
    have hlabel : substitute "field_[%key_name%]" (keyParameters "Email") = "field_email" := by
      decide +kernel
    simp [fillGroups, fieldGroups, Node.fillDefaults, Node.mapInfos, NodeInfo.fillDefault,
      bareInfo, hlabel]
  obtain ⟨hok, -⟩ := @itemsAll_expands fieldEngine (bareInfo "fields") (bareInfo "field")
    (.ofString "") fieldGroups ["id"] (.obj fieldTexts) fieldTexts rfl rfl rfl rfl rfl hg hv
  exact ⟨rfl, rfl, rfl, hg, hv, hfill, (hok _).mp hrun⟩

end Engine

end Reshape
