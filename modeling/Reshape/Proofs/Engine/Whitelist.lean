/-
# What limits let through

A limit of a node names a key and a limitation of the document.  Where the limitation is a
list, it is a whitelist: a set meets the limit (`Limitations.Meets`) if its value under the key
is in the list.  Null and false are no values to a limit; a set may have them under any key.

Nodes that build sets emit the sets that their units make up and that meet every limit, and no
others.  A whitelist holds off whatever is not on it, and limits hold off nothing else.

Main statement: `mapNode_whitelisted`.
-/
import Mathlib.Data.Set.List
import Reshape.Proofs.Engine.Sets

namespace Reshape

/-! ## 1. Meeting limits -/

namespace Limitations

variable {l : Limitations} {limits : List Limit} {set : Entries Json}

/-- If the limitation of a limit is a list, the value under the key of the limit is null, false
or in the list. -/
def Meets (l : Limitations) (limit : Limit) (set : Entries Json) : Prop :=
  ∀ items, Entries.get? limit.limitation l.table = some (.arr items) →
    ∀ v, Entries.get? limit.key set = some v →
      v = .null ∨ v = .bool false ∨ ∃ w ∈ items, v.equal w = true

theorem allowed?_eq_some {name : String} {items : List Json} :
    l.allowed? name = some items ↔ Entries.get? name l.table = some (.arr items) := by
  unfold allowed?
  split <;> simp_all

theorem attribute?_eq_some {name : String} {v : Json} :
    attribute? name set = some v ↔
      Entries.get? name set = some v ∧ v ≠ .null ∧ v ≠ .bool false := by
  have hoff : v.isOff = false ↔ v ≠ .null ∧ v ≠ .bool false := by
    rcases v with _ | b | _ | _ | _ | _ | _
    case bool => cases b <;> simp [Json.isOff]
    all_goals simp [Json.isOff]
  simp [attribute?, Option.filter_eq_some_iff, hoff]

theorem isBroken_eq_true {limit : Limit} :
    l.isBroken set limit = true ↔ ∃ v items, attribute? limit.key set = some v ∧
      l.allowed? limit.limitation = some items ∧ v.memberOf items = false := by
  unfold isBroken
  split <;> simp_all

theorem isBroken_eq_false {limit : Limit} : l.isBroken set limit = false ↔ l.Meets limit set := by
  rw [← Bool.not_eq_true, isBroken_eq_true, Meets]
  constructor
  · intro h items hi v hv
    by_contra hn
    obtain ⟨hnull, hfalse, hout⟩ :
        v ≠ .null ∧ v ≠ .bool false ∧ ¬∃ w ∈ items, v.equal w = true := by
      simpa only [not_or] using hn
    have hmem : v.memberOf items = false := Bool.eq_false_iff.mpr (mt List.any_eq_true.mp hout)
    exact h ⟨v, items, attribute?_eq_some.mpr ⟨hv, hnull, hfalse⟩, allowed?_eq_some.mpr hi, hmem⟩
  · rintro h ⟨v, items, hv, hi, hout⟩
    obtain ⟨hget, hnull, hfalse⟩ := attribute?_eq_some.mp hv
    obtain rfl | rfl | hin := h items (allowed?_eq_some.mp hi) v hget
    · exact hnull rfl
    · exact hfalse rfl
    · have hmem : v.memberOf items = true := List.any_eq_true.mpr hin
      exact Bool.false_ne_true (hout.symm.trans hmem)

theorem rejects_eq_false :
    l.rejects limits set = false ↔ ∀ limit ∈ limits, l.Meets limit set := by
  simp [rejects, isBroken_eq_false]

end Limitations

/-! ## 2. Units under limits -/

namespace SetUnit

variable {e : Engine} {limits : List Limit} {u : SetUnit}

/-- The set that a unit makes up: the values of its fields against what the conditions leave,
under the names of the fields, where no required value is blank. -/
def MakesUp (e : Engine) (u : SetUnit) (set : Entries Json) : Prop :=
  ∃ item vs, u.Leaves e (some item) ∧ e.Values u.fields item u.params vs ∧ ¬u.Lacks vs ∧
    Entries.Written ((u.fields.map Node.name).zip vs) set

/-- A unit comes to the set that it makes up, if that meets the limits. -/
theorem builds_some_iff {v : Json} :
    u.Builds e limits (some v) ↔ ∃ set, v = .obj set ∧ u.MakesUp e set ∧
      ∀ limit ∈ limits, e.document.limitations.Meets limit set := by
  constructor
  · rintro (_ | _ | _ | ⟨hs, hv, hl, hw, hr⟩)
    exact ⟨_, rfl, ⟨_, _, hs, hv, hl, hw⟩, Limitations.rejects_eq_false.mp hr⟩
  · rintro ⟨set, rfl, ⟨item, vs, hs, hv, hl, hw⟩, hm⟩
    exact .built hs hv hl hw (Limitations.rejects_eq_false.mpr hm)

/-- The sets of units are those that a unit makes up and that meet the limits. -/
theorem BuildAll.exists_sets {units : List SetUnit} {vs : List Json}
    (h : BuildAll e limits units vs) :
    ∃ sets : List (Entries Json), vs = sets.map .obj ∧
      ∀ set, set ∈ sets ↔ (∃ u ∈ units, u.MakesUp e set) ∧
        ∀ limit ∈ limits, e.document.limitations.Meets limit set := by
  obtain ⟨outcomes, ho, rfl⟩ := h
  have hmem : ∀ v, some v ∈ outcomes ↔ ∃ u ∈ units, u.Builds e limits (some v) := by
    intro v
    induction ho with
    | nil => simp
    | @cons u o us os hb _ ih =>
      have hhead : some v = o ↔ u.Builds e limits (some v) :=
        ⟨fun h => h ▸ hb, fun h => h.unique hb⟩
      simp [ih, hhead]
  have hrange : outcomes.filterMap id ∈ Set.range (List.map Json.obj) := by
    rw [Set.range_list_map]
    intro v hv
    obtain ⟨u, -, hb⟩ := (hmem v).mp (by simpa using hv)
    obtain ⟨set, rfl, -⟩ := builds_some_iff.mp hb
    exact ⟨set, rfl⟩
  obtain ⟨sets, hsets⟩ := hrange
  refine ⟨sets, hsets.symm, fun set => ?_⟩
  calc set ∈ sets
    _ ↔ Json.obj set ∈ sets.map .obj := by simp
    _ ↔ ∃ u ∈ units, u.Builds e limits (some (.obj set)) := by rw [hsets]; simp [hmem]
    _ ↔ ∃ u ∈ units, u.MakesUp e set ∧
          ∀ limit ∈ limits, e.document.limitations.Meets limit set := by simp [builds_some_iff]
    _ ↔ _ := by simp only [← and_assoc, exists_and_right]

end SetUnit

/-! ## 3. What a node emits -/

/-- The path of the node leads to `found`, or nowhere. -/
def Node.Finds (n : Node) (input : Json) (found : Option Json) : Prop :=
  ∃ path, n.path? = some path ∧ (Engine.resolve path input).result = .ok found

/-- What stands in for sets where the path of a node leads nowhere. -/
def Node.fallback : Node → Json
  | .attributes info _ _ => info.default.getD .null
  | n => Json.asSequence n.info.default

namespace Engine

variable {e : Engine} {n : Node} {input found v : Json} {params : Parameters}

theorem finds_of_mapNode
    (hk : n.kind? = some .attributes ∨ n.kind? = some .items ∨ n.kind? = some .itemsAll)
    (hv : (e.mapNode n input params).result = .ok v) :
    ∃ found?, n.Finds input found? ∧ (found? = none → v = n.fallback) := by
  cases n
  case attributes | items | itemsAll =>
    rw [mapNode] at hv
    obtain ⟨found?, hf, hv⟩ := Reporting.result_bind_eq_ok.mp hv
    refine ⟨found?, ⟨_, rfl, hf⟩, ?_⟩
    rintro rfl
    cases hv
    rfl
  all_goals simp [Node.kind?] at hk

theorem buildAll_of_mapNode
    (hk : n.kind? = some .attributes ∨ n.kind? = some .items ∨ n.kind? = some .itemsAll)
    (ht : n.info.transform = none) (hf : n.Finds input (some found))
    (hv : (e.mapNode n input params).result = .ok v) :
    ∃ vs, SetUnit.BuildAll e n.info.limits (n.units found params) vs ∧ v = n.emitted vs := by
  obtain ⟨path, hp, hf⟩ := hf
  cases n with
  | attributes =>
    cases hp
    exact attributes_build ht hf hv
  | items =>
    cases hp
    exact items_build ht hf hv
  | itemsAll =>
    cases hp
    exact itemsAll_build ht hf hv
  | _ => simp [Node.kind?] at hk

/-- **Exactly the sets that meet the limits are emitted.**  Where the path leads somewhere, a
node that builds sets and transforms nothing emits the sets that its units make up and that
meet every limit of the node.  Where it leads nowhere, there are no sets. -/
theorem mapNode_whitelisted
    (hk : n.kind? = some .attributes ∨ n.kind? = some .items ∨ n.kind? = some .itemsAll)
    (ht : n.info.transform = none) (hv : (e.mapNode n input params).result = .ok v) :
    (n.Finds input none ∧ v = n.fallback) ∨
    ∃ found, ∃ sets : List (Entries Json), n.Finds input (some found) ∧
      v = n.emitted (sets.map .obj) ∧
      ∀ set, set ∈ sets ↔ (∃ u ∈ n.units found params, u.MakesUp e set) ∧
        ∀ limit ∈ n.info.limits, e.document.limitations.Meets limit set := by
  obtain ⟨found?, hf, hnone⟩ := finds_of_mapNode hk hv
  cases found? with
  | none => exact .inl ⟨hf, hnone rfl⟩
  | some found =>
    obtain ⟨vs, hb, rfl⟩ := buildAll_of_mapNode hk ht hf hv
    obtain ⟨sets, rfl, hsets⟩ := hb.exists_sets
    exact .inr ⟨found, sets, hf, rfl, hsets⟩

/-! ## 4. Members with a status -/

/-- An engine with one status on the list. -/
def statusEngine : Engine := ⟨⟨[], ⟨[("status", .arr [.str "active"])]⟩, []⟩, ⟨[]⟩, registry {}⟩

/-- The states of users, of which only those with a listed status are wanted. -/
def statusNode : Node :=
  .attributes ⟨"users", none, none, [⟨"s", "status"⟩], none, false⟩ (.ofString "users/*")
    [.value ⟨"s", none, none, [], none, false⟩ (some (.ofString "state"))]

/-- Users in these states. -/
def usersIn (states : List Json) : Json :=
  .obj [("users", .arr (states.map fun state => .obj [("state", state)]))]

theorem statusNode_whitelisted :
    statusNode.kind? = some .attributes ∧ statusNode.info.transform = none ∧
    (statusEngine.mapNode statusNode (usersIn [.str "gone", .str "active", .null]) []).result =
      .ok (.arr [.obj [("s", .str "active")], .obj [("s", .null)]]) ∧
    ∃ sets : List (Entries Json),
      Json.arr [.obj [("s", .str "active")], .obj [("s", .null)]] =
        statusNode.emitted (sets.map .obj) ∧
      ∀ set ∈ sets, ∀ limit ∈ statusNode.info.limits,
        statusEngine.document.limitations.Meets limit set := by
  have hv : (statusEngine.mapNode statusNode (usersIn [.str "gone", .str "active", .null])
      []).result = .ok (.arr [.obj [("s", .str "active")], .obj [("s", .null)]]) := rfl
  refine ⟨rfl, rfl, hv, ?_⟩
  obtain ⟨-, hnone⟩ | ⟨found, sets, -, hsets, hmem⟩ := mapNode_whitelisted (.inl rfl) rfl hv
  · cases hnone
  · exact ⟨sets, hsets, fun set hset => ((hmem set).mp hset).2⟩

/-- **False is on every list.**  A set with a false value meets a limit whose list has no
false. -/
theorem statusNode_false :
    statusNode.kind? = some .attributes ∧ statusNode.info.transform = none ∧
    statusNode.info.limits = [⟨"s", "status"⟩] ∧
    Entries.get? "status" statusEngine.document.limitations.table =
      some (.arr [.str "active"]) ∧
    (Json.bool false).memberOf [.str "active"] = false ∧
    (statusEngine.mapNode statusNode (usersIn [.bool false]) []).result =
      .ok (.arr [.obj [("s", .bool false)]]) :=
  ⟨rfl, rfl, rfl, rfl, by decide +kernel, rfl⟩

end Engine

end Reshape
