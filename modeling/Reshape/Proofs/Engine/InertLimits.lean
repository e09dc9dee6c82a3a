/-
# Limits without a list

A limit holds a set against a list of values.  Where the document has no limitation of the name
that the limit gives, or has one that is no list, there is nothing to hold the set against, and
the limit is ignored (`Limitations.Ignores`).

Limits that are ignored may as well not be there: whichever of them are deleted, at any nodes
and at any depth, every run comes to the same output or the same error after the same notices.
The limits without a limitation of their name are those that linting finds, each at its own
place, with the code W002.

Main statement: `ignoredLimits_inert`.
-/
import Reshape.Proofs.Engine.Merge
import Reshape.Proofs.Engine.Simulation
import Reshape.Proofs.Engine.Whitelist
import Reshape.Proofs.Lint.Soundness

namespace Reshape

open Reporting

/-! ## 1. Deleting limits -/

/-- Limits of a list are deleted, all of which meet a property; the others keep their order. -/
inductive Limit.Deletes (P : Limit → Prop) : List Limit → List Limit → Prop
  | nil : Deletes P [] []
  | keep {limit : Limit} {limits rest : List Limit} (h : Deletes P limits rest) :
      Deletes P (limit :: limits) (limit :: rest)
  | drop {limit : Limit} {limits rest : List Limit} (hl : P limit) (h : Deletes P limits rest) :
      Deletes P (limit :: limits) rest

theorem Limit.Deletes.refl (P : Limit → Prop) (limits : List Limit) : Deletes P limits limits := by
  induction limits with
  | nil => exact .nil
  | cons limit limits ih => exact .keep ih

theorem Limit.Deletes.filter {P : Limit → Prop} {drops : Limit → Bool}
    (hdrops : ∀ limit, drops limit = true → P limit) (limits : List Limit) :
    Deletes P limits (limits.filter fun limit => !drops limit) := by
  induction limits with
  | nil => exact .nil
  | cons limit limits ih =>
    cases hd : drops limit with
    | true =>
      rw [List.filter_cons_of_neg (by simp [hd])]
      exact .drop (hdrops limit hd) ih
    | false =>
      rw [List.filter_cons_of_pos (by simp [hd])]
      exact .keep ih

/-- Two nodes say the same, but for limits that are deleted. -/
def NodeInfo.Deletes (P : Limit → Prop) (i j : NodeInfo) : Prop :=
  ∃ limits, Limit.Deletes P i.limits limits ∧ j = { i with limits }

theorem NodeInfo.Deletes.refl (P : Limit → Prop) (i : NodeInfo) : i.Deletes P i :=
  ⟨i.limits, Limit.Deletes.refl P i.limits, rfl⟩

namespace Document

/-- Two documents say the same, but for limits that are deleted from nodes of any depth. -/
structure Deletes (P : Limit → Prop) (d d' : Document) : Prop where
  conditions : d'.conditions = d.conditions
  limitations : d'.limitations = d.limitations
  objects : List.Forall₂ (Node.Parallel fun _ => NodeInfo.Deletes P) d.objects d'.objects

/-- The document with some limits deleted from every node of every depth. -/
def deleteLimits (drops : Limit → Bool) (d : Document) : Document :=
  { d with
    objects := d.objects.map <| Node.mapInfos fun _ info =>
      { info with limits := info.limits.filter fun limit => !drops limit } }

theorem deletes_deleteLimits {P : Limit → Prop} {drops : Limit → Bool}
    (hdrops : ∀ limit, drops limit = true → P limit) (d : Document) :
    d.Deletes P (d.deleteLimits drops) where
  conditions := rfl
  limitations := rfl
  objects := by
    refine forall₂_map_of_mem fun n _ => Node.parallel_mapInfos fun m _ => ?_
    exact ⟨_, Limit.Deletes.filter hdrops m.info.limits, rfl⟩

/-- With any options, either there are engines of both documents, which run alike on every
input, or there is none of either, for the same reason. -/
def RunsAlike (d d' : Document) : Prop :=
  ∀ o, Result.Agree Eq (fun e e' : Engine => ∀ input, e.apply input = e'.apply input)
    (Engine.ofDocument d o) (Engine.ofDocument d' o)

end Document

/-! ## 2. Limits that are ignored -/

namespace Limitations

variable {l : Limitations} {limit : Limit}

/-- A limit is ignored: its limitation is not there, or is no list. -/
def Ignores (l : Limitations) (limit : Limit) : Prop :=
  ∀ items, Entries.get? limit.limitation l.table ≠ some (.arr items)

theorem ignores_of_not_contains (h : l.contains limit.limitation = false) :
    l.Ignores limit := by
  intro items hi
  rw [contains, Entries.contains, hi] at h
  cases h

theorem Ignores.isBroken (h : l.Ignores limit) (set : Entries Json) :
    l.isBroken set limit = false := by
  rw [← Bool.not_eq_true, isBroken_eq_true]
  rintro ⟨v, items, -, hi, -⟩
  exact h items (allowed?_eq_some.mp hi)

/-- Limits reject the same sets, whether those that are ignored are there or not. -/
theorem rejects_of_deletes {limits rest : List Limit} (h : Limit.Deletes l.Ignores limits rest)
    (set : Entries Json) : l.rejects limits set = l.rejects rest set := by
  rw [rejects, rejects]
  induction h with
  | nil => rfl
  | keep _ ih => rw [List.any_cons, List.any_cons, ih]
  | drop hl _ ih => rw [List.any_cons, hl.isBroken, Bool.false_or, ih]

end Limitations

/-! ## 3. Runs -/

namespace Engine

/-- Nodes that say the same, but for limits that are ignored, are run in step. -/
theorem simulates_deletes (e : Engine) :
    e.Simulates (fun _ => NodeInfo.Deletes e.document.limitations.Ignores) Eq Eq Eq where
  congruence := Json.congruence_eq
  found h := h
  candidates h := h ▸ List.forall₂_refl _
  resolve {v w} h path := by
    subst h
    exact echoes_refl (fun found => by cases found <;> constructor; rfl) _
  name := by
    rintro k i j ⟨limits, -, rfl⟩
    rfl
  require := by
    rintro k i j ⟨limits, -, rfl⟩
    rfl
  limits := by
    rintro k i j ⟨limits, h, rfl⟩
    exact Limitations.rejects_of_deletes h
  default := by
    rintro k i j ⟨limits, -, rfl⟩
    rfl
  filter := by
    rintro k i j ⟨limits, -, rfl⟩ v _ rfl
    exact echoes_refl (fun left => by cases left <;> constructor; rfl) _
  transform := by
    rintro k i j ⟨limits, -, rfl⟩ v _ rfl
    exact echoes_refl (fun _ => rfl) _
  value := by
    rintro i j ⟨limits, -, rfl⟩ v _ rfl p _ rfl path
    exact echoes_refl (fun _ => rfl) _
  entries := by
    rintro i j ⟨limits, -, rfl⟩ v _ rfl path exclude
    rw [Json.entryRel_eq, List.forall₂_eq_eq_eq]
    exact echoes_refl (fun _ => rfl) _
  withKey := by
    rintro i j ⟨limits, -, rfl⟩ p _ rfl key
    rfl

/-- Objects that are run in step with those of a document may take their place. -/
theorem apply_withObjects {e : Engine} {info : Option NodeKind → NodeInfo → NodeInfo → Prop}
    (hs : e.Simulates info Eq Eq Eq) {objects : List Node}
    (h : List.Forall₂ (Node.Parallel info) e.document.objects objects) (input : Json) :
    e.apply input = (e.withObjects objects).apply input := by
  have hsteps := h.imp fun n m hnm => hs.step_of_parallel hnm
  refine echoes_eq_iff.mp ?_
  rw [apply, apply, mapFields_withObjects, objects_withObjects]
  refine (hs.echoes_mapFields hsteps rfl rfl).bind fun fs gs hfs => ?_
  exact echoes_pure (hs.made_unwrap hfs.entriesOf)

end Engine

namespace Document

variable {d d' : Document}

/-- **Limits that are ignored may be deleted.** -/
theorem Deletes.runsAlike (h : d.Deletes d.limitations.Ignores d') : d.RunsAlike d' := by
  intro o
  obtain ⟨conditions, limitations, objects⟩ := d'
  obtain ⟨rfl, rfl, hobjects⟩ := h
  unfold Engine.ofDocument
  dsimp only
  split
  · next conditions _ =>
    refine .ok fun input => ?_
    exact Engine.apply_withObjects (e := ⟨d, conditions, Engine.registry o⟩)
      (Engine.simulates_deletes _) hobjects input
  · exact .error rfl

/-! ## 4. Findings -/

/-- **Limits without a list are inert.**  The limits that linting finds with the code W002 are
those, of nodes at any depth, for which the document has no limitation.  If all of them are
deleted, every engine of the document runs as before: the same output or the same error, after
the same notices, on every input.  The same is true if any limits are deleted whose limitation
is not there, or is there but is no list. -/
theorem ignoredLimits_inert (d : Document) :
    (∀ f, (f ∈ d.findings ∧ f.code = "W002") ↔
      ∃ p m i limit, d.StandsAt p m ∧ m.info.limits[i]? = some limit ∧
        d.limitations.contains limit.limitation = false ∧
        f = .undefinedLimitation ((p.key "limits").index i) limit.limitation) ∧
    d.RunsAlike (d.deleteLimits fun limit => !d.limitations.contains limit.limitation) ∧
    ∀ d' : Document, d.Deletes d.limitations.Ignores d' → d.RunsAlike d' := by
  have hdrops : ∀ limit : Limit, (!d.limitations.contains limit.limitation) = true →
      d.limitations.Ignores limit := by
    intro limit h
    exact Limitations.ignores_of_not_contains (by simpa using h)
  exact ⟨fun f => mem_findings_undefinedLimitation, (deletes_deleteLimits hdrops d).runsAlike,
    fun d' h => h.runsAlike⟩

/-- What a node of goods says, with these limits. -/
def goodsInfo (limits : List Limit) : NodeInfo := ⟨"goods", none, none, limits, none, false⟩

/-- Goods with their states and sizes, one level down, under these limits. -/
def goodsDocument (limits : List Limit) : Document :=
  ⟨[], ⟨[("state", .arr [.str "new"]), ("size", .str "small")]⟩,
    [.nested ⟨"stock", none, none, [], none, false⟩
      [.attributes (goodsInfo limits) (.ofString "goods/*")
        [.value ⟨"state", none, none, [], none, false⟩ (some (.ofString "state")),
          .value ⟨"size", none, none, [], none, false⟩ (some (.ofString "size"))]]]⟩

/-- The engine of a document of goods. -/
def goodsEngine (limits : List Limit) : Engine := ⟨goodsDocument limits, ⟨[]⟩, Engine.registry {}⟩

/-- Of three limits the second is that of an unknown limitation, and the third that of a
limitation that is no list; the first alone rejects goods. -/
theorem goodsDocument_inert :
    let limits : List Limit := [⟨"state", "state"⟩, ⟨"size", "colour"⟩, ⟨"size", "size"⟩]
    let input : Json := .obj [("goods", .arr [.obj [("state", .str "new"), ("size", .str "large")],
      .obj [("state", .str "worn")]])]
    (goodsDocument limits).deleteLimits (fun limit =>
        !(goodsDocument limits).limitations.contains limit.limitation) =
      goodsDocument [⟨"state", "state"⟩, ⟨"size", "size"⟩] ∧
    (goodsDocument limits).findings =
      [.undefinedLimitation [.key "objects", .index 0, .key "nested", .index 0, .key "limits",
        .index 1] "colour"] ∧
    (goodsDocument limits).Deletes (goodsDocument limits).limitations.Ignores
      (goodsDocument [⟨"state", "state"⟩]) ∧
    (∀ o, Result.Agree Eq (fun e e' : Engine => ∀ input, e.apply input = e'.apply input)
      (Engine.ofDocument (goodsDocument limits) o)
      (Engine.ofDocument (goodsDocument [⟨"state", "state"⟩, ⟨"size", "size"⟩]) o)) ∧
    (goodsEngine limits).apply input = (goodsEngine [⟨"state", "state"⟩]).apply input ∧
    ((goodsEngine limits).apply input).result = .ok (.obj [("stock", .obj [("goods",
      .arr [.obj [("state", .str "new"), ("size", .str "large")]])])]) := by
  intro limits input
  obtain ⟨-, hundeclared, hignored⟩ := ignoredLimits_inert (goodsDocument limits)
  have hcolour : (goodsDocument limits).limitations.Ignores ⟨"size", "colour"⟩ := by
    intro items hi
    cases hi
  have hsize : (goodsDocument limits).limitations.Ignores ⟨"size", "size"⟩ := by
    intro items hi
    cases hi
  have hdeletes : (goodsDocument limits).Deletes (goodsDocument limits).limitations.Ignores
      (goodsDocument [⟨"state", "state"⟩]) := by
    refine ⟨rfl, rfl, .cons (.nested (.refl _ _) (.cons (.attributes ?_ ?_) .nil)) .nil⟩
    · exact ⟨_, .keep (.drop hcolour (.drop hsize .nil)), rfl⟩
    · exact .cons (.value (.refl _ _)) (.cons (.value (.refl _ _)) .nil)
  have hruns := hignored _ hdeletes {}
  have hengine : ∀ limits, Engine.ofDocument (goodsDocument limits) {} = .ok (goodsEngine limits) :=
    fun _ => rfl
  rw [hengine, hengine] at hruns
  refine ⟨rfl, by decide +kernel, hdeletes, hundeclared, ?_, rfl⟩
  cases hruns with
  | ok h => exact h input

end Document

end Reshape
