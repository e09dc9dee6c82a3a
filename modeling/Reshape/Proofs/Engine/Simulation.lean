/-
# Runs in step

Two nodes of one shape are run against two inputs.  If whatever the engine reads of the inputs
answers alike, and whatever it reads beside the kinds of the nodes does so too, then the two
runs echo each other: related values or the same error, after the same notices.

What has to be kept in step is said one step at a time (`Simulates`): inputs and what is found in
them are compared by a relation `given`, values that are made by a `Json.Congruence` `made`,
parameters by `params`, and what two nodes say beside their kind by `info`, which may depend on
the kind.  The steps are then put together once for all nodes.

Main statement: `Simulates.step_of_parallel`.
-/
import Reshape.Proofs.Echo
import Reshape.Proofs.Engine.Fields
import Reshape.Proofs.Json.Equality
import Reshape.Proofs.Schema.Parallel

namespace Reshape

open Reporting
open Json (EntryRel Congruence)

/-! ## 1. Entries in step -/

/-- Values that are added in step make up groups in step. -/
theorem Entries.forall₂_addTo {R : Json → Json → Prop} {k : String} {v w : Json}
    {gs hs : Entries (List Json)} (hvw : R v w)
    (h : List.Forall₂ (EntryRel (List.Forall₂ R)) gs hs) :
    List.Forall₂ (EntryRel (List.Forall₂ R)) (addTo k v gs) (addTo k w hs) := by
  induction h with
  | nil => exact .cons ⟨rfl, .cons hvw .nil⟩ .nil
  | @cons g g' gs hs hg hrest ih =>
    obtain ⟨l, vs⟩ := g
    obtain ⟨l', ws⟩ := g'
    obtain ⟨rfl, hvs⟩ := hg
    rw [addTo, addTo]
    split
    · exact .cons ⟨rfl, List.rel_append hvs (.cons hvw .nil)⟩ hrest
    · exact .cons ⟨rfl, hvs⟩ ih

/-- Entries that are grouped in step make up groups in step. -/
theorem Entries.forall₂_group {R : Json → Json → Prop} {es fs : Entries Json}
    (h : List.Forall₂ (EntryRel R) es fs) :
    List.Forall₂ (EntryRel (List.Forall₂ R)) (group es) (group fs) := by
  have hfold : ∀ {gs hs : Entries (List Json)}, List.Forall₂ (EntryRel (List.Forall₂ R)) gs hs →
      List.Forall₂ (EntryRel (List.Forall₂ R)) (es.foldl (fun gs e => addTo e.1 e.2 gs) gs)
        (fs.foldl (fun gs e => addTo e.1 e.2 gs) hs) := by
    induction h with
    | nil => exact id
    | @cons a b es fs hab _ ih =>
      obtain ⟨k, v⟩ := a
      obtain ⟨l, w⟩ := b
      obtain ⟨rfl, hvw⟩ := hab
      exact fun hgs => ih (forall₂_addTo hvw hgs)
  exact hfold .nil

/-- Whether limits reject a set is a question about what it reads. -/
theorem Limitations.rejects_ofList {R : Json → Json → Prop} (hR : ∀ v w, R v w → v.Same w)
    (l : Limitations) (limits : List Limit) {news news' : Entries Json}
    (h : List.Forall₂ (EntryRel R) news news') :
    l.rejects limits (Entries.ofList news) = l.rejects limits (Entries.ofList news') := by
  have hbroken : l.isBroken (Entries.ofList news) = l.isBroken (Entries.ofList news') := by
    funext limit
    have hread := Json.rel_get?_ofList h limit.key
    rw [isBroken, isBroken, attribute?, attribute?]
    generalize Entries.get? limit.key (Entries.ofList news) = v? at hread ⊢
    generalize Entries.get? limit.key (Entries.ofList news') = w? at hread ⊢
    cases hread with
    | none => rfl
    | @some v w hvw =>
      have hsame := hR v w hvw
      rw [Option.filter_some, Option.filter_some, hsame.isOff]
      cases w.isOff with
      | true => rfl
      | false =>
        cases l.allowed? limit.limitation with
        | none => rfl
        | some items => exact congrArg (!·) (hsame.memberOf (Json.Same.refl_items items))
  rw [rejects, rejects, hbroken]

namespace Engine

/-! ## 2. What is kept in step -/

/-- Two lists of limits reject the same sets. -/
def SameLimits (e : Engine) (limits limits' : List Limit) : Prop :=
  ∀ set, e.document.limitations.rejects limits set = e.document.limitations.rejects limits' set

/-- The steps of an engine that keep two runs in step. -/
structure Simulates (e : Engine) (info : Option NodeKind → NodeInfo → NodeInfo → Prop)
    (given made : Json → Json → Prop) (params : Parameters → Parameters → Prop) : Prop where
  congruence : Congruence made
  /-- What is found may be what is made. -/
  found {v w : Json} (h : given v w) : made v w
  candidates {v w : Json} (h : given v w) : List.Forall₂ given v.candidates w.candidates
  resolve {v w : Json} (h : given v w) (path : Path) :
    Echoes (Option.Rel given) (resolve path v) (resolve path w)
  name {k : Option NodeKind} {i j : NodeInfo} (h : info k i j) : i.name = j.name
  require {k : Option NodeKind} {i j : NodeInfo} (h : info k i j) : i.require = j.require
  limits {k : Option NodeKind} {i j : NodeInfo} (h : info k i j) :
    SameLimits e i.limits j.limits
  default {k : NodeKind} {i j : NodeInfo} (h : info (some k) i j) : i.default = j.default
  filter {k : NodeKind} {i j : NodeInfo} (h : info (some k) i j) {v w : Json} (hv : given v w) :
    Echoes (Option.Rel given) (e.filterCandidate i v) (e.filterCandidate j w)
  transform {k : NodeKind} {i j : NodeInfo} (h : info (some k) i j) {v w : Json}
    (hv : made v w) : Echoes made (e.transform i v) (e.transform j w)
  /-- Plain values alone read parameters, and their defaults may differ. -/
  value {i j : NodeInfo} (h : info none i j) {v w : Json} (hv : given v w) {p q : Parameters}
    (hp : params p q) (path : Option Path) :
    Echoes made (e.mapValue i path v p) (e.mapValue j path w q)
  /-- Only nodes with `items_all` go through entries and hand keys down. -/
  entries {i j : NodeInfo} (h : info (some .itemsAll) i j) {v w : Json} (hv : given v w)
    (path : Path) (exclude : List String) :
    Echoes (List.Forall₂ (EntryRel given)) (openCandidate i path exclude v)
      (openCandidate j path exclude w)
  withKey {i j : NodeInfo} (h : info (some .itemsAll) i j) {p q : Parameters} (hp : params p q)
    (key : String) : params (withKey key p) (withKey key q)

variable {e : Engine} {info : Option NodeKind → NodeInfo → NodeInfo → Prop}
  {given made : Json → Json → Prop} {params : Parameters → Parameters → Prop}

/-! ## 3. Fields in step -/

/-- Fields in step: under the same names, required alike, with related values. -/
def FieldsMatch (R : Json → Json → Prop) (fs gs : Fields) : Prop :=
  List.Forall₂ (fun f g => f.1.name = g.1.name ∧ f.1.require = g.1.require ∧ R f.2 g.2) fs gs

theorem FieldsMatch.entriesOf {fs gs : Fields} (h : FieldsMatch made fs gs) :
    List.Forall₂ (EntryRel made) (entriesOf fs) (entriesOf gs) := by
  rw [Engine.entriesOf, Engine.entriesOf, List.forall₂_map_left_iff, List.forall₂_map_right_iff]
  exact h.imp fun f g hfg => ⟨hfg.1, hfg.2.2⟩

theorem FieldsMatch.lacksRequired (hc : Congruence made) {fs gs : Fields}
    (h : FieldsMatch made fs gs) : lacksRequired fs = lacksRequired gs := by
  induction h with
  | nil => rfl
  | cons hfg _ ih =>
    obtain ⟨-, hrequire, hvalue⟩ := hfg
    rw [Engine.lacksRequired, Engine.lacksRequired, List.any_cons, List.any_cons, hrequire,
      (hc.same hvalue).isBlank]
    exact congrArg _ ih

theorem FieldsMatch.candidates (hc : Congruence made) {fs gs : Fields}
    (h : FieldsMatch made fs gs) :
    List.Forall₂ made (fs.flatMap fun f => f.2.candidates) (gs.flatMap fun f => f.2.candidates) :=
  List.rel_flatMap h fun _ _ hfg => hc.candidates hfg.2.2

namespace Simulates

theorem rel_attributeSet (hs : e.Simulates info given made params) {limits limits' : List Limit}
    (hl : SameLimits e limits limits') {fs gs : Fields} (h : FieldsMatch made fs gs) :
    Option.Rel made (e.attributeSet limits fs) (e.attributeSet limits' gs) := by
  rw [attributeSet, attributeSet, h.lacksRequired hs.congruence, hl,
    Limitations.rejects_ofList (fun _ _ => hs.congruence.same) _ _ h.entriesOf]
  split
  · exact .none
  · exact .some (hs.congruence.obj h.entriesOf)

/-! ## 4. Loops over nodes -/

/-- Two nodes are run in step. -/
structure Step (e : Engine) (info : Option NodeKind → NodeInfo → NodeInfo → Prop)
    (given made : Json → Json → Prop) (params : Parameters → Parameters → Prop)
    (n m : Node) : Prop where
  info : info n.kind? n.info m.info
  run {v w : Json} (hv : given v w) {p q : Parameters} (hp : params p q) :
    Echoes made (e.mapNode n v p) (e.mapNode m w q)

variable {v w : Json} {p q : Parameters}

theorem echoes_mapFields (hs : e.Simulates info given made params) {ns ms : List Node}
    (h : List.Forall₂ (Step e info given made params) ns ms) (hv : given v w) (hp : params p q) :
    Echoes (FieldsMatch made) (e.mapFields ns v p) (e.mapFields ms w q) := by
  rw [mapFields_eq_mapM, mapFields_eq_mapM]
  refine echoes_mapM (h.imp fun n m hnm => (hnm.run hv hp).bind fun x y hxy => echoes_pure ?_)
  exact ⟨hs.name hnm.info, hs.require hnm.info, hxy⟩

theorem echoes_mapGroups (hs : e.Simulates info given made params) {limits limits' : List Limit}
    (hl : SameLimits e limits limits') {gs hs' : List (List Node)}
    (h : List.Forall₂ (List.Forall₂ (Step e info given made params)) gs hs') (hv : given v w)
    (hp : params p q) :
    Echoes (List.Forall₂ made) (e.mapGroups gs limits v p) (e.mapGroups hs' limits' w q) := by
  rw [mapGroups_eq_mapM, mapGroups_eq_mapM]
  have hsets : List.Forall₂ (fun ns ms => Echoes (Option.Rel made)
      (do let fs ← e.mapFields ns v p; pure (e.attributeSet limits fs))
      (do let fs ← e.mapFields ms w q; pure (e.attributeSet limits' fs))) gs hs' := by
    refine h.imp fun ns ms hnm => (hs.echoes_mapFields hnm hv hp).bind fun fs fs' hfs => ?_
    exact echoes_pure (hs.rel_attributeSet hl hfs)
  refine (echoes_mapM hsets).bind fun sets sets' h => ?_
  exact echoes_pure (List.rel_filterMap (fun _ _ h => h) h)

theorem echoes_mergePaths (hs : e.Simulates info given made params) (hv : given v w)
    (paths : List Path) :
    Echoes (List.Forall₂ made) (mergePaths paths v) (mergePaths paths w) := by
  refine (echoes_mapM (List.forall₂_same.mpr fun path _ => hs.resolve hv path)).bind
    fun found found' h => echoes_pure (List.rel_flatMap h fun v? w? hvw => ?_)
  cases hvw with
  | none => exact .nil
  | some hvw => exact (hs.candidates hvw).imp fun _ _ => hs.found

theorem echoes_transformGroups (hs : e.Simulates info given made params) {k : NodeKind}
    {i j : NodeInfo} (hi : info (some k) i j) {gs hs' : Entries (List Json)}
    (h : List.Forall₂ (EntryRel (List.Forall₂ made)) gs hs') :
    Echoes (List.Forall₂ (EntryRel made)) (e.transformGroups i gs) (e.transformGroups j hs') := by
  refine echoes_mapM (h.imp fun g g' hg => ?_)
  have hdedup := Json.forall₂_dedup (fun _ _ => hs.congruence.same) hg.2
  exact (hs.transform hi (hs.congruence.arr hdedup)).bind fun x y hxy => echoes_pure ⟨hg.1, hxy⟩

/-! ## 5. Nodes -/

theorem steps_of_parallel {ns ms : List Node}
    (ih : ∀ n ∈ ns, ∀ m, n.Parallel info m → Step e info given made params n m)
    (h : List.Forall₂ (Node.Parallel info) ns ms) :
    List.Forall₂ (Step e info given made params) ns ms :=
  ((List.forall₂_and_left _ _).mpr ⟨ih, h⟩).imp fun _ m hm => hm.1 m hm.2

theorem groups_of_parallel {gs hs : List (List Node)}
    (ih : ∀ n ∈ gs.flatten, ∀ m, n.Parallel info m → Step e info given made params n m)
    (h : List.Forall₂ (List.Forall₂ (Node.Parallel info)) gs hs) :
    List.Forall₂ (List.Forall₂ (Step e info given made params)) gs hs := by
  have hgroups : ∀ g ∈ gs, ∀ n ∈ g, ∀ m, n.Parallel info m → Step e info given made params n m :=
    fun g hg n hn => ih n (List.mem_flatten.mpr ⟨g, hg, hn⟩)
  exact ((List.forall₂_and_left _ _).mpr ⟨hgroups, h⟩).imp fun _ _ hg =>
    steps_of_parallel hg.1 hg.2

theorem made_collapseSets (hs : e.Simulates info given made params) (path : Path)
    {sets sets' : List Json} (h : List.Forall₂ made sets sets') :
    made (collapseSets path sets) (collapseSets path sets') := by
  have harr := hs.congruence.arr h
  cases h with
  | nil => exact harr
  | cons hset hrest =>
    cases hrest with
    | nil =>
      rw [collapseSets, collapseSets]
      split
      · exact harr
      · exact hset
    | cons => exact harr

/-- What nodes make of what their paths lead to, with a value where that is nothing. -/
theorem echoes_found (hs : e.Simulates info given made params) (hv : given v w) (path : Path)
    (default : Json) {make make' : Json → Reporting MappingError Json}
    (h : ∀ found found', given found found' → Echoes made (make found) (make' found')) :
    Echoes made
      (do match ← Engine.resolve path v with
          | none => pure default
          | some found => make found)
      (do match ← Engine.resolve path w with
          | none => pure default
          | some found => make' found) := by
  refine (hs.resolve hv path).bind fun found? found?' hf => ?_
  cases hf with
  | none => exact echoes_pure (hs.congruence.refl default)
  | some hf => exact h _ _ hf

/-- What nodes make of the candidates of what they found, one after the other. -/
theorem echoes_candidates {α : Type} (S : α → α → Prop) (hs : e.Simulates info given made params)
    (hv : given v w) {make make' : Json → Reporting MappingError α}
    (h : ∀ c c', given c c' → Echoes S (make c) (make' c')) :
    Echoes (List.Forall₂ S) (v.candidates.mapM make) (w.candidates.mapM make') :=
  echoes_mapM ((hs.candidates hv).imp h)

/-- What nodes make of what their conditions leave of a candidate. -/
theorem echoes_left {α : Type} {R : α → α → Prop} (hs : e.Simulates info given made params)
    {k : NodeKind} {i j : NodeInfo} (hi : info (some k) i j) (hv : given v w) {skip : α}
    (hskip : R skip skip) {make make' : Json → Reporting MappingError α}
    (h : ∀ item item', given item item' → Echoes R (make item) (make' item')) :
    Echoes R
      (do match ← e.filterCandidate i v with
          | none => pure skip
          | some item => make item)
      (do match ← e.filterCandidate j w with
          | none => pure skip
          | some item => make' item) := by
  refine (hs.filter hi hv).bind fun item? item?' hitem => ?_
  cases hitem with
  | none => exact echoes_pure hskip
  | some hitem => exact h _ _ hitem

/-- One node: it is run in step with a node of its shape, if the nodes right below it are. -/
theorem echoes_mapNode_of_children (hs : e.Simulates info given made params) {n m : Node}
    (h : n.Parallel info m)
    (ih : ∀ k ∈ n.children, ∀ l, k.Parallel info l → Step e info given made params k l)
    (hv : given v w) (hp : params p q) : Echoes made (e.mapNode n v p) (e.mapNode m w q) := by
  cases h with
  | @value i j path hi =>
    rw [mapNode, mapNode]
    exact hs.value hi hv hp path
  | @attributes i j path ns ms hi h =>
    rw [mapNode, mapNode, hs.default hi]
    refine hs.echoes_found hv path _ fun found found' hf => ?_
    refine (hs.echoes_candidates (Option.Rel made) hf fun c c' hc => ?_).bind fun _ _ hsets => ?_
    · refine hs.echoes_left hi hc .none fun item item' hitem => ?_
      refine (hs.echoes_mapFields (steps_of_parallel ih h) hitem hp).bind fun fs gs hfs => ?_
      exact echoes_pure (hs.rel_attributeSet (hs.limits hi) hfs)
    · exact hs.transform hi (hs.made_collapseSets path (List.rel_filterMap (fun _ _ h => h) hsets))
  | @nested i j ns ms hi h =>
    rw [mapNode, mapNode]
    refine (hs.echoes_mapFields (steps_of_parallel ih h) hv hp).bind fun fs gs hfs => ?_
    exact echoes_pure (hs.congruence.obj hfs.entriesOf)
  | @items i j path gs hs' hi h =>
    rw [mapNode, mapNode, hs.default hi]
    refine hs.echoes_found hv path _ fun found found' hf => ?_
    refine (hs.echoes_candidates (List.Forall₂ made) hf fun c c' hc => ?_).bind fun _ _ hsets => ?_
    · refine hs.echoes_left hi hc .nil fun item item' hitem => ?_
      exact hs.echoes_mapGroups (hs.limits hi) (groups_of_parallel ih h) hitem hp
    · exact hs.transform hi (hs.congruence.arr (List.rel_flatten hsets))
  | @itemsAll i j path gs hs' exclude hi h =>
    rw [mapNode, mapNode, hs.default hi]
    refine hs.echoes_found hv path _ fun found found' hf => ?_
    refine (hs.echoes_candidates (List.Forall₂ made) hf fun c c' hc => ?_).bind fun _ _ hsets => ?_
    · refine (hs.entries hi hc path exclude).bind fun es fs hes => ?_
      have hentry : ∀ a b, EntryRel given a b → Echoes (List.Forall₂ made)
          (e.mapGroups gs i.limits a.2 (Engine.withKey a.1 p))
          (e.mapGroups hs' j.limits b.2 (Engine.withKey b.1 q)) := by
        rintro a b ⟨hkey, hab⟩
        rw [← hkey]
        have hgroups := groups_of_parallel ih h
        exact hs.echoes_mapGroups (hs.limits hi) hgroups hab (hs.withKey hi hp a.1)
      exact (echoes_mapM (hes.imp hentry)).bind fun _ _ hsets =>
        echoes_pure (List.rel_flatten hsets)
    · exact hs.transform hi (hs.congruence.arr (List.rel_flatten hsets))
  | @hash i j path ns ms hi h =>
    rw [mapNode, mapNode, hs.default hi]
    refine hs.echoes_found hv path _ fun found found' hf => ?_
    refine (hs.echoes_candidates (List.Forall₂ (EntryRel made)) hf fun c c' hc => ?_).bind
      fun _ _ hes => ?_
    · refine hs.echoes_left hi hc .nil fun item item' hitem => ?_
      refine (hs.echoes_mapFields (steps_of_parallel ih h) hitem hp).bind fun fs gs hfs => ?_
      exact echoes_pure hfs.entriesOf
    · exact echoes_pure (hs.congruence.obj (List.rel_flatten hes))
  | @array i j ns ms hi h =>
    rw [mapNode, mapNode]
    refine (hs.echoes_mapFields (steps_of_parallel ih h) hv hp).bind fun fs gs hfs => ?_
    have hsame : ∀ v w, made v w → v.Same w := fun _ _ => hs.congruence.same
    exact hs.transform hi (hs.congruence.arr (Json.forall₂_dropNulls hsame
      (Json.forall₂_dedup hsame (hfs.candidates hs.congruence))))
  | @hashArray i j path ns ms hi h =>
    rw [mapNode, mapNode, hs.default hi]
    refine hs.echoes_found hv path _ fun found found' hf => ?_
    refine (hs.echoes_candidates (List.Forall₂ (EntryRel made)) hf fun c c' hc => ?_).bind
      fun _ _ hes => ?_
    · refine (hs.echoes_mapFields (steps_of_parallel ih h) hc hp).bind fun fs gs hfs => ?_
      exact echoes_pure hfs.entriesOf
    · refine (hs.echoes_transformGroups hi (Entries.forall₂_group (List.rel_flatten hes))).bind
        fun es fs hes => ?_
      exact echoes_pure (hs.congruence.obj hes)
  | @mergeArrays i j paths hi =>
    rw [mapNode, mapNode]
    refine (hs.echoes_mergePaths hv paths).bind fun found found' hf => ?_
    exact hs.transform hi (hs.congruence.arr
      (Json.forall₂_dedup (fun _ _ => hs.congruence.same) hf))

/-- **Nodes of one shape are run in step**, if the steps of the engine keep them so. -/
theorem step_of_parallel (hs : e.Simulates info given made params) {n m : Node}
    (h : n.Parallel info m) : Step e info given made params n m := by
  induction n using Node.induct_children generalizing m with
  | step n ih =>
    refine ⟨h.info, fun hv _ _ hp => hs.echoes_mapNode_of_children h ?_ hv hp⟩
    exact fun k hk l hkl => ih k hk hkl

/-- Outputs that are written in step are related. -/
theorem made_unwrap (hs : e.Simulates info given made params) {es fs : Entries Json}
    (h : List.Forall₂ (EntryRel made) es fs) :
    made (unwrap (Entries.ofList es)) (unwrap (Entries.ofList fs)) := by
  have hread := Json.rel_get?_ofList h unwrapKey
  rw [unwrap, unwrap]
  generalize Entries.get? unwrapKey (Entries.ofList es) = v? at hread ⊢
  generalize Entries.get? unwrapKey (Entries.ofList fs) = w? at hread ⊢
  cases hread with
  | none => exact hs.congruence.obj h
  | some hvw => exact hvw

end Simulates

end Engine

end Reshape
