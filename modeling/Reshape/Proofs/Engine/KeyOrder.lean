/-
# The order of keys

Objects are equal whatever the order of their entries, and so are the two zeros.  An engine may
still tell equal inputs apart: `items_all` goes through entries in their order, the condition
class `Matches` reads the text of a value, and some transforms list what an object holds.

A document without these (`OrderFree`) makes of equal inputs equal outputs, or fails on both with
the same error, after the same notices, if no two keys of an object of an input differ in case
alone.

Main statement: `apply_of_equal`.
-/
import Reshape.Proofs.Condition.Equality
import Reshape.Proofs.Engine.Simulation
import Reshape.Proofs.Json.Keys
import Reshape.Proofs.Template.Substitution
import Reshape.Proofs.Transform.Equality

namespace Reshape

open Reporting

/-- A node of this kind that says this makes no use of the order of entries: it does not go
through the entries of an object, and its transforms respect equality. -/
structure NodeInfo.OrderFree (k : Option NodeKind) (info : NodeInfo) : Prop where
  kind : k ≠ some .itemsAll
  transform {steps : TransformSpec} (h : info.transform = some steps) :
    ∀ step ∈ steps, step.name ∈ Transform.respecting

/-- A document makes no use of the order of entries: its conditions do not read texts, and none
of its nodes looks at that order. -/
structure Document.OrderFree (d : Document) : Prop where
  conditions : ∀ c ∈ d.conditions, c.2.className ∈ ConditionClasses.respecting
  nodes : ∀ n ∈ d.objects, ∀ m : Node, m.Within n → NodeInfo.OrderFree m.kind? m.info

namespace Engine

open NodeInfo (OrderFree)

/-! ## 1. Nodes that respect equality -/

variable {e : Engine} {info : NodeInfo} {k : Option NodeKind} {v w : Json}

theorem echoes_transform_of_orderFree (h : OrderFree k info) (he : e.transforms = .builtin)
    (hvw : v.Same w) : Echoes Json.Same (e.transform info v) (e.transform info w) := by
  rw [Engine.transform, Engine.transform, he]
  have hchain : Echoes Json.Same (TransformRegistry.builtin.applyOptional v info.transform)
      (TransformRegistry.builtin.applyOptional w info.transform) := by
    cases hs : info.transform with
    | none => exact echoes_pure hvw
    | some steps => exact Transform.echoes_chain (h.transform hs) hvw
  exact hchain.mapError _

theorem echoes_resolve_same (h : v.Same w) (path : Path) :
    Echoes (Option.Rel Json.Same) (resolve path v) (resolve path w) :=
  (Path.follows_same.echoes_resolve path h).mapError _

theorem echoes_mapValue_of_orderFree (h : OrderFree k info) (he : e.transforms = .builtin)
    (hc : e.conditions.Respects) (hvw : v.Same w) (path : Option Path) :
    Echoes Json.Same (e.mapValue info path v []) (e.mapValue info path w []) := by
  unfold mapValue
  cases path with
  | none => exact echoes_pure (.refl _)
  | some path =>
    refine (echoes_resolve_same hvw path).bind fun found? found?' hfound => ?_
    cases hfound with
    | none => exact echoes_pure (.refl _)
    | @some found found' hf =>
      dsimp only
      simp only [Template.fill_nil]
      cases info.conditions with
      | none => exact (echoes_transform_of_orderFree h he hf).bind fun x y hxy => echoes_pure hxy
      | some specs =>
        refine (hc.echoes_apply hf specs).bind fun left? left?' hleft => ?_
        cases hleft with
        | none => exact echoes_refl .refl _
        | some hleft =>
          exact (echoes_transform_of_orderFree h he hleft).bind fun x y hxy => echoes_pure hxy

/-- Nodes that respect equality are run in step against values that are the same. -/
theorem simulates_same (he : e.transforms = .builtin) (hc : e.conditions.Respects) :
    e.Simulates (fun k i j => i = j ∧ OrderFree k i) Json.Same Json.Same
      fun p q => p = [] ∧ q = [] where
  congruence := Json.congruence_same
  found h := h
  candidates h := h.candidates
  resolve h path := echoes_resolve_same h path
  name h := by rw [h.1]
  require h := by rw [h.1]
  limits h set := by rw [h.1]
  default h := by rw [h.1]
  filter h v w hvw := by
    obtain ⟨rfl, -⟩ := h
    rw [filterCandidate, filterCandidate]
    split
    · exact hc.echoes_apply hvw _
    · exact echoes_pure (.some hvw)
  transform h v w hvw := by
    obtain ⟨rfl, h⟩ := h
    exact echoes_transform_of_orderFree h he hvw
  value h v w hvw p q hp path := by
    obtain ⟨rfl, h⟩ := h
    obtain ⟨rfl, rfl⟩ := hp
    exact echoes_mapValue_of_orderFree h he hc hvw path
  entries h := absurd rfl h.2.kind
  withKey h := absurd rfl h.2.kind

/-! ## 2. Documents that respect equality -/

/-- **Equal inputs have equal outputs**, or fail with the same error, after the same notices,
if the document makes no use of the order of entries and no two keys of an object differ in case
alone. -/
theorem apply_of_equal {d : Document} {e : Engine} (he : ofDocument d {} = .ok e)
    (hd : d.OrderFree) {x y : Json} (hx : x.Uncolliding) (hy : y.Uncolliding)
    (h : x.equal y = true) :
    Agree Eq (fun v w => v.equal w = true) (e.apply x) (e.apply y) ∧
      (e.apply x).notices = (e.apply y).notices := by
  unfold ofDocument at he
  split at he
  · next conditions hbuild =>
    cases he
    have hc : conditions.Respects := ConditionClasses.respects_of_build hbuild hd.conditions
    have hs := simulates_same (e := ⟨d, conditions, registry {}⟩) rfl hc
    have hsame : x.normalizeKeys.Same y.normalizeKeys :=
      Json.same_normalizeKeys hx hy (Json.equal_iff_same.mp h)
    have hobjects := List.forall₂_same.mpr fun n hn =>
      hs.step_of_parallel (Node.parallel_self fun m hm => ⟨rfl, hd.nodes n hn m hm⟩)
    have hecho : Echoes Json.Same (Engine.apply ⟨d, conditions, registry {}⟩ x)
        (Engine.apply ⟨d, conditions, registry {}⟩ y) :=
      (hs.echoes_mapFields hobjects hsame ⟨rfl, rfl⟩).bind fun fs gs hfs =>
        echoes_pure (hs.made_unwrap hfs.entriesOf)
    exact ⟨(hecho.imp fun v w hvw => Json.equal_iff_same.mpr hvw).agree, hecho.notices⟩
  · cases he

/-- The rates that are zero, without repetitions, and the owner of the rates. -/
def ratesDocument : Document :=
  ⟨[("zero", ⟨"Equals", .float (.zero false)⟩)], ⟨[]⟩,
    [.items ⟨"rates", some [⟨"uniq_array", []⟩], none, [], none, false⟩ (.ofString "rates")
      [[.value ⟨"free", none, some [⟨"zero", none, none⟩], [], none, false⟩
        (some (.ofString "rate"))]],
    .value ⟨"owner", none, none, [], none, false⟩ (some (.ofString "owner/name"))]⟩

/-- The engine of rates. -/
def ratesEngine : Engine :=
  ⟨ratesDocument, ⟨[("zero", fun v => v.equal (.float (.zero false)))]⟩, registry {}⟩

theorem ratesEngine_orderFree :
    let x := Json.obj [("Rates", .arr [.obj [("rate", .float (.zero false)), ("id", .int 1)]]),
      ("size", .int 1)]
    let y := Json.obj [("size", .int 1),
      ("Rates", .arr [.obj [("id", .int 1), ("rate", .float (.zero true))]])]
    ofDocument ratesDocument {} = .ok ratesEngine ∧ ratesDocument.OrderFree ∧
    x.Uncolliding ∧ y.Uncolliding ∧ x.equal y = true ∧
    (ratesEngine.apply x).result =
      .ok (.obj [("rates", .arr [.obj [("free", .float (.zero false))]]), ("owner", .null)]) ∧
    (ratesEngine.apply y).warnings = ["could not find owner/name in input"] ∧
    Agree Eq (fun v w => v.equal w = true) (ratesEngine.apply x) (ratesEngine.apply y) ∧
      (ratesEngine.apply x).notices = (ratesEngine.apply y).notices := by
  intro x y
  have hvalue : ∀ info path, info.transform = none →
      ∀ m : Node, m.Within (.value info path) → OrderFree m.kind? m.info := by
    intro info path ht
    refine Node.forall_within ⟨by simp [Node.kind?], fun h => ?_⟩ (by simp [Node.children])
    cases ht.symm.trans h
  have hd : ratesDocument.OrderFree := by
    refine ⟨by simp [ratesDocument, ConditionClasses.respecting], ?_⟩
    simp only [ratesDocument, List.forall_mem_cons, List.not_mem_nil, false_imp_iff, implies_true,
      and_true]
    refine ⟨Node.forall_within ⟨by simp [Node.kind?], ?_⟩ ?_, hvalue _ _ rfl⟩
    · rintro steps ⟨⟩
      decide
    · simp only [Node.children, List.flatten_cons, List.flatten_nil, List.append_nil,
        List.forall_mem_cons, List.not_mem_nil, false_imp_iff, implies_true, and_true]
      exact hvalue _ _ rfl
  have hx : x.Uncolliding := by
    refine .obj (by decide +kernel) ?_
    simp only [List.forall_mem_cons, List.not_mem_nil, false_imp_iff, implies_true, and_true]
    refine ⟨.arr ?_, .int 1⟩
    simp only [List.forall_mem_cons, List.not_mem_nil, false_imp_iff, implies_true, and_true]
    refine .obj (by decide +kernel) ?_
    simp [Json.Uncolliding.int, Json.Uncolliding.float]
  have hy : y.Uncolliding := by
    refine .obj (by decide +kernel) ?_
    simp only [List.forall_mem_cons, List.not_mem_nil, false_imp_iff, implies_true, and_true]
    refine ⟨.int 1, .arr ?_⟩
    simp only [List.forall_mem_cons, List.not_mem_nil, false_imp_iff, implies_true, and_true]
    refine .obj (by decide +kernel) ?_
    simp [Json.Uncolliding.int, Json.Uncolliding.float]
  have hxy : x.equal y = true := by decide +kernel
  exact ⟨rfl, hd, hx, hy, hxy, by decide +kernel, by decide +kernel,
    apply_of_equal rfl hd hx hy hxy⟩

end Engine

end Reshape
