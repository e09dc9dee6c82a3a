/-
# Merging the objects of a document

An engine maps the objects of its document one after the other and merges their values.  Each
object has a value or an error of its own (`objectResult`), whatever stands around it:

* the run fails with the first of these errors, even where the value would not have been seen;
* otherwise the output has the value of the last object of each name under that name, in the
  order in which the names come up, unless an object is named `unwrap`: then the value of the
  last such object is the output (`Merges`).

Only the order among objects of one name can therefore be seen in an output, and an object of a
new name leaves what the others write as it was.

Main statement: `apply_merges`.
-/
import Reshape.Proofs.Agreement
import Reshape.Proofs.Engine.Fields
import Reshape.Proofs.Json.Equality

namespace Reshape.Engine

open Reporting

variable {e : Engine} {input : Json}

/-! ## 1. The value of each object -/

/-- What an object of a document comes to. -/
def objectResult (e : Engine) (input : Json) (n : Node) : Except MappingError Json :=
  (e.mapNode n input.normalizeKeys []).result

/-- The output that the values of the objects make up. -/
inductive Merges (e : Engine) (input : Json) : Json → Prop
  | unwrapped {n : Node} {v : Json}
      (h : IsLast (fun m => m.name = unwrapKey) e.document.objects n)
      (hv : e.objectResult input n = .ok v) : Merges e input v
  | merged {es : Entries Json} (hu : ∀ n ∈ e.document.objects, n.name ≠ unwrapKey)
      (hkeys : Entries.keys es = (e.document.objects.map Node.name).eraseDups)
      (hlast : ∀ n v, IsLast (fun m => m.name = n.name) e.document.objects n →
        e.objectResult input n = .ok v → Entries.get? n.name es = some v) :
      Merges e input (.obj es)

/-- The entries that objects with these values write. -/
def written (g : Node → Json) (ns : List Node) : Entries Json := ns.map fun n => (n.name, g n)

theorem result_apply_of_ok {g : Node → Json}
    (h : ∀ n ∈ e.document.objects, e.objectResult input n = .ok (g n)) :
    (e.apply input).result = .ok (unwrap (Entries.ofList (written g e.document.objects))) := by
  have hvalues : e.Values e.document.objects input.normalizeKeys []
      (e.document.objects.map g) := by
    rw [Values, List.forall₂_map_right_iff, List.forall₂_same]
    exact h
  have hfields := result_mapFields_eq_ok.mpr ⟨_, hvalues, rfl⟩
  have hentries : entriesOf ((e.document.objects.map Node.info).zip (e.document.objects.map g)) =
      written g e.document.objects := by
    rw [entriesOf_zip, List.zip_map', written]
  rw [apply, result_bind_of_ok hfields, hentries]
  rfl

theorem exists_value (h : ∀ n ∈ e.document.objects, ∃ v, e.objectResult input n = .ok v) :
    ∃ g : Node → Json, ∀ n ∈ e.document.objects, e.objectResult input n = .ok (g n) := by
  refine ⟨fun n => (e.objectResult input n).toOption.getD .null, fun n hn => ?_⟩
  obtain ⟨v, hv⟩ := h n hn
  simp only [hv]
  rfl

/-- **The run fails with the first error of an object.** -/
theorem result_apply_eq_error {err : MappingError} :
    (e.apply input).result = .error err ↔
      ∃ before n after, e.document.objects = before ++ n :: after ∧
        (∀ m ∈ before, ∃ v, e.objectResult input m = .ok v) ∧
        e.objectResult input n = .error err := by
  have hbind : (e.apply input).result = .error err ↔
      (e.mapFields e.document.objects input.normalizeKeys []).result = .error err := by
    rw [apply, result_bind_eq_error]
    simp
  rw [hbind, result_mapFields_eq_error]
  rfl

theorem values_of_result_apply {out : Json} (h : (e.apply input).result = .ok out) :
    ∀ n ∈ e.document.objects, ∃ v, e.objectResult input n = .ok v := by
  obtain ⟨fs, hfs, -⟩ := result_bind_eq_ok.mp h
  obtain ⟨vs, hvs, -⟩ := result_mapFields_eq_ok.mp hfs
  exact Result.exists_forall₂.mp ⟨vs, hvs⟩

/-! ## 2. The output -/

variable {g : Node → Json}

/-- Under a name stands the value of the last object of that name. -/
theorem get?_written {ns : List Node} {key : String} {v : Json} :
    Entries.get? key (Entries.ofList (written g ns)) = some v ↔
      ∃ n, IsLast (fun m => m.name = key) ns n ∧ g n = v := by
  rw [Entries.get?_ofList, written, Entries.get?_reverse_map]

theorem unwrap_of_some {es : Entries Json} {v : Json} (h : Entries.get? unwrapKey es = some v) :
    unwrap es = v := by
  rw [unwrap, h]
  rfl

theorem unwrap_of_none {es : Entries Json} (h : Entries.get? unwrapKey es = none) :
    unwrap es = .obj es := by
  rw [unwrap, h]
  rfl

/-- There is one output that the values of the objects make up. -/
theorem merges_iff (h : ∀ n ∈ e.document.objects, e.objectResult input n = .ok (g n))
    {out : Json} : e.Merges input out ↔
      out = unwrap (Entries.ofList (written g e.document.objects)) := by
  constructor
  · intro hm
    cases hm with
    | @unwrapped n v hlast hv =>
      rw [h n hlast.mem] at hv
      exact (unwrap_of_some (get?_written.mpr ⟨n, hlast, Except.ok.inj hv⟩)).symm
    | @merged es hu hkeys hlast =>
      have hw : Entries.Written (written g e.document.objects) es :=
        .of_isLast hkeys fun n hn => hlast n (g n) hn (h n hn.mem)
      have hnone : Entries.get? unwrapKey es = none := by
        refine Entries.get?_eq_none_iff.mpr fun hmem => ?_
        rw [hkeys, List.mem_eraseDups] at hmem
        obtain ⟨n, hn, hname⟩ := List.mem_map.mp hmem
        exact hu n hn hname
      rw [← hw.eq_ofList, unwrap_of_none hnone]
  · rintro rfl
    cases hget : Entries.get? unwrapKey (Entries.ofList (written g e.document.objects)) with
    | some v =>
      obtain ⟨n, hlast, rfl⟩ := get?_written.mp hget
      rw [unwrap_of_some hget]
      exact .unwrapped hlast (h n hlast.mem)
    | none =>
      have hkeys : Entries.keys (Entries.ofList (written g e.document.objects)) =
          (e.document.objects.map Node.name).eraseDups := by
        rw [Entries.keys_ofList, written, Entries.keys, List.map_map]
        rfl
      rw [unwrap_of_none hget]
      refine .merged (fun n hn hname => ?_) hkeys fun n v hlast hv => ?_
      · refine Entries.get?_eq_none_iff.mp hget ?_
        rw [hkeys, List.mem_eraseDups]
        exact List.mem_map.mpr ⟨n, hn, hname⟩
      · rw [h n hlast.mem] at hv
        exact get?_written.mpr ⟨n, hlast, Except.ok.inj hv⟩

/-- **The run succeeds with what the values of the objects make up.** -/
theorem result_apply_eq_ok {out : Json} :
    (e.apply input).result = .ok out ↔
      (∀ n ∈ e.document.objects, ∃ v, e.objectResult input n = .ok v) ∧ e.Merges input out := by
  constructor
  · intro h
    have hvalues := values_of_result_apply h
    obtain ⟨g, hg⟩ := exists_value hvalues
    refine ⟨hvalues, (merges_iff hg).mpr ?_⟩
    rw [result_apply_of_ok hg] at h
    exact (Except.ok.inj h).symm
  · rintro ⟨hvalues, hm⟩
    obtain ⟨g, hg⟩ := exists_value hvalues
    rw [result_apply_of_ok hg, (merges_iff hg).mp hm]

/-! ## 3. Objects in another order -/

/-- An engine with other objects in its document. -/
def withObjects (e : Engine) (objects : List Node) : Engine :=
  { e with document := { e.document with objects := objects } }

theorem objects_withObjects (e : Engine) (objects : List Node) :
    (e.withObjects objects).document.objects = objects := rfl

theorem mapNode_withObjects (e : Engine) (objects : List Node) :
    (e.withObjects objects).mapNode = e.mapNode := by
  delta mapNode
  rfl

theorem mapFields_withObjects (e : Engine) (objects : List Node) :
    (e.withObjects objects).mapFields = e.mapFields := by
  funext ns input params
  rw [mapFields_eq_mapM, mapFields_eq_mapM, mapNode_withObjects]

/-- An object comes to the same, whatever stands around it. -/
theorem objectResult_withObjects (e : Engine) (objects : List Node) :
    (e.withObjects objects).objectResult input = e.objectResult input := by
  funext n
  rw [objectResult, objectResult, mapNode_withObjects]

/-- Entries that read alike come to outputs that are the same. -/
theorem same_unwrap {es fs : Entries Json} (he : Entries.Distinct es) (hf : Entries.Distinct fs)
    (h : ∀ key, Entries.get? key es = Entries.get? key fs) : (unwrap es).Same (unwrap fs) := by
  cases hget : Entries.get? unwrapKey es with
  | some v =>
    rw [unwrap_of_some hget, unwrap_of_some ((h unwrapKey).symm.trans hget)]
  | none =>
    rw [unwrap_of_none hget, unwrap_of_none ((h unwrapKey).symm.trans hget)]
    refine Json.same_obj he hf fun key => ?_
    rw [h key]
    cases Entries.get? key fs with
    | none => exact .none
    | some v => exact .some (.refl v)

/-- **Only the order among objects of one name can be seen.** -/
theorem agree_apply_of_perm {objects : List Node} (hperm : objects.Perm e.document.objects)
    (horder : ∀ name, objects.filter (fun n => n.name = name) =
      e.document.objects.filter (fun n => n.name = name)) :
    Agree (fun _ _ => True) (fun v w => v.equal w = true) (e.apply input)
      ((e.withObjects objects).apply input) := by
  have hfail : ∀ {e : Engine}, (¬∀ n ∈ e.document.objects, ∃ v, e.objectResult input n = .ok v) →
      ∃ err, (e.apply input).result = .error err := by
    intro e h
    cases hr : (e.apply input).result with
    | ok out => exact absurd (values_of_result_apply hr) h
    | error err => exact ⟨err, rfl⟩
  have hsame : (∀ n ∈ objects, ∃ v, e.objectResult input n = .ok v) ↔
      ∀ n ∈ e.document.objects, ∃ v, e.objectResult input n = .ok v := by
    simp only [hperm.mem_iff]
  by_cases hvalues : ∀ n ∈ e.document.objects, ∃ v, e.objectResult input n = .ok v
  · obtain ⟨g, hg⟩ := exists_value hvalues
    have hg' : ∀ n ∈ objects, (e.withObjects objects).objectResult input n = .ok (g n) := by
      intro n hn
      rw [objectResult_withObjects]
      exact hg n (hperm.mem_iff.mp hn)
    rw [Agree, result_apply_of_ok hg, result_apply_of_ok hg']
    refine .ok (Json.equal_iff_same.mpr (same_unwrap (Entries.distinct_ofList _)
      (Entries.distinct_ofList _) fun key => ?_))
    -- what is read under a name comes from the objects of that name, which stand in one order
    have hfilter : ∀ ns : List Node, (written g ns).filter (fun entry => entry.1 = key) =
        written g (ns.filter fun n => n.name = key) := by
      intro ns
      rw [written, written, List.filter_map]
      rfl
    rw [Entries.get?_ofList_filter, hfilter, ← horder, ← hfilter, ← Entries.get?_ofList_filter]
    rfl
  · obtain ⟨err, herr⟩ := hfail hvalues
    obtain ⟨err', herr'⟩ := hfail (e := e.withObjects objects) (by
      rw [objectResult_withObjects]
      exact fun h => hvalues (hsame.mp h))
    rw [Agree, herr, herr']
    exact .error trivial

/-! ## 4. An object of a new name -/

/-- What an object of a new name adds to an output: an entry, unless the output is the value of
an object named `unwrap`. -/
def Gains (ns : List Node) (name : String) (v out out' : Json) : Prop :=
  (∃ n ∈ ns, n.name = unwrapKey) ∧ out' = out ∨
    (∀ n ∈ ns, n.name ≠ unwrapKey) ∧ ∃ es es', out = .obj es ∧ out' = .obj es' ∧
      Entries.get? name es = none ∧ Entries.get? name es' = some v ∧
      ∀ key, key ≠ name → Entries.get? key es' = Entries.get? key es

/-- Writing under a new name changes what is read there, and nothing else. -/
theorem gains_unwrap {es fs : Entries Json} {ns : List Node} {name : String} {v : Json}
    (hkeys : Entries.keys (es ++ fs) = ns.map Node.name) (hu : name ≠ unwrapKey)
    (hnew : ∀ n ∈ ns, n.name ≠ name) :
    Gains ns name v (unwrap (Entries.ofList (es ++ fs)))
      (unwrap (Entries.ofList (es ++ (name, v) :: fs))) := by
  have hother : ∀ key, key ≠ name → Entries.get? key (Entries.ofList (es ++ (name, v) :: fs)) =
      Entries.get? key (Entries.ofList (es ++ fs)) :=
    fun key hkey => Entries.get?_ofList_append_cons hkey.symm v es fs
  have hmem : ∀ key, key ∈ Entries.keys (Entries.ofList (es ++ fs)) ↔
      ∃ n ∈ ns, n.name = key := by
    intro key
    rw [Entries.keys_ofList, List.mem_eraseDups, hkeys, List.mem_map]
  by_cases hunwrap : ∃ n ∈ ns, n.name = unwrapKey
  · obtain ⟨w, hw⟩ := Entries.exists_get?_of_mem_keys ((hmem unwrapKey).mpr hunwrap)
    rw [unwrap_of_some hw, unwrap_of_some ((hother unwrapKey hu.symm).trans hw)]
    exact .inl ⟨hunwrap, rfl⟩
  · have hnone := Entries.get?_eq_none_iff.mpr (mt (hmem unwrapKey).mp hunwrap)
    rw [unwrap_of_none hnone, unwrap_of_none ((hother unwrapKey hu.symm).trans hnone)]
    have habsent : name ∉ Entries.keys (es ++ fs) := by
      rw [hkeys, List.mem_map]
      rintro ⟨n, hn, hname⟩
      exact hnew n hn hname
    refine .inr ⟨fun n hn h => hunwrap ⟨n, hn, h⟩, _, _, rfl, rfl, ?_,
      Entries.get?_ofList_append_cons_self habsent v, hother⟩
    rw [Entries.get?_eq_none_iff, Entries.keys_ofList, List.mem_eraseDups]
    exact habsent

/-- **An object of a new name leaves what the others write as it was.** -/
theorem agree_apply_of_new {before after : List Node} {n : Node} {v : Json}
    (hobjects : e.document.objects = before ++ after) (hu : n.name ≠ unwrapKey)
    (hnew : ∀ m ∈ e.document.objects, m.name ≠ n.name) (hv : e.objectResult input n = .ok v) :
    Agree Eq (Gains e.document.objects n.name v) (e.apply input)
      ((e.withObjects (before ++ n :: after)).apply input) := by
  have hleft : e.apply input = (do
      let fs ← e.mapFields before input.normalizeKeys []
      let gs ← e.mapFields after input.normalizeKeys []
      pure (unwrap (Entries.ofList (entriesOf fs ++ entriesOf gs)))) := by
    rw [apply, hobjects]
    simp only [mapFields_eq_mapM, List.mapM_append, bind_assoc, pure_bind, entriesOf,
      List.map_append]
  have hright : (e.withObjects (before ++ n :: after)).apply input = (do
      let fs ← e.mapFields before input.normalizeKeys []
      let w ← e.mapNode n input.normalizeKeys []
      let gs ← e.mapFields after input.normalizeKeys []
      pure (unwrap (Entries.ofList (entriesOf fs ++ (n.name, w) :: entriesOf gs)))) := by
    rw [apply, objects_withObjects]
    simp only [mapFields_eq_mapM, mapNode_withObjects, List.mapM_append, List.mapM_cons,
      bind_assoc, pure_bind, entriesOf, List.map_append, List.map_cons]
    rfl
  rw [hleft, hright]
  refine (agree_refl (fun _ => rfl) _).bind_of_ok fun fs fs' hfs h => ?_
  subst h
  rw [Agree, result_bind_of_ok hv]
  refine (agree_refl (fun _ => rfl) _).bind_of_ok fun gs gs' hgs h => ?_
  subst h
  refine agree_pure (gains_unwrap ?_ hu hnew)
  rw [Entries.keys, List.map_append, ← Entries.keys, ← Entries.keys, keys_entriesOf hfs,
    keys_entriesOf hgs, hobjects, List.map_append]

/-! ## 5. Documents -/

/-- **How the objects of a document are merged.**  A run fails with the first error of an object,
and otherwise it succeeds with what the values of the objects make up.  So the objects may be
put in another order, as long as those of one name keep theirs; and an object of a new name,
other than `unwrap`, that has a value `v` may be added anywhere: the error stays the same, and
the output gains `v` under that name. -/
theorem apply_merges (e : Engine) (input : Json) :
    (∀ err, (e.apply input).result = .error err ↔
      ∃ before n after, e.document.objects = before ++ n :: after ∧
        (∀ m ∈ before, ∃ v, e.objectResult input m = .ok v) ∧
        e.objectResult input n = .error err) ∧
    (∀ out, (e.apply input).result = .ok out ↔
      (∀ n ∈ e.document.objects, ∃ v, e.objectResult input n = .ok v) ∧ e.Merges input out) ∧
    (∀ objects : List Node, objects.Perm e.document.objects →
      (∀ name, objects.filter (fun n => n.name = name) =
        e.document.objects.filter (fun n => n.name = name)) →
      Agree (fun _ _ => True) (fun v w => v.equal w = true) (e.apply input)
        ((e.withObjects objects).apply input)) ∧
    ∀ before after n v, e.document.objects = before ++ after → n.name ≠ unwrapKey →
      (∀ m ∈ e.document.objects, m.name ≠ n.name) → e.objectResult input n = .ok v →
      Agree Eq (Gains e.document.objects n.name v) (e.apply input)
        ((e.withObjects (before ++ n :: after)).apply input) :=
  ⟨fun _ => result_apply_eq_error, fun _ => result_apply_eq_ok, fun _ => agree_apply_of_perm,
    fun _ _ _ _ => agree_apply_of_new⟩

/-- An object with the value at a path. -/
def objectAt (name path : String) : Node :=
  .value ⟨name, none, none, [], none, false⟩ (some (.ofString path))

/-- A document with two objects of one name. -/
def nameEngine : Engine :=
  ⟨⟨[], ⟨[]⟩, [objectAt "name" "nick", objectAt "id" "id", objectAt "name" "full"]⟩, ⟨[]⟩,
    registry {}⟩

theorem nameEngine_merges :
    let input := Json.obj [("id", .int 7), ("nick", .str "Al"), ("full", .str "Albert")]
    let objects := [objectAt "id" "id", objectAt "name" "nick", objectAt "name" "full"]
    let longer := [objectAt "name" "nick", objectAt "nick" "nick", objectAt "id" "id",
      objectAt "name" "full"]
    (nameEngine.Merges input (.obj [("name", .str "Albert"), ("id", .int 7)]) ∧
      ¬∃ err, (nameEngine.apply input).result = .error err) ∧
    ((nameEngine.withObjects objects).apply input).result =
      .ok (.obj [("id", .int 7), ("name", .str "Albert")]) ∧
    Agree (fun _ _ => True) (fun v w => v.equal w = true) (nameEngine.apply input)
      ((nameEngine.withObjects objects).apply input) ∧
    Agree Eq (Gains nameEngine.document.objects "nick" (.str "Al")) (nameEngine.apply input)
      ((nameEngine.withObjects longer).apply input) := by
  intro input objects longer
  have hrun : (nameEngine.apply input).result =
      .ok (.obj [("name", .str "Albert"), ("id", .int 7)]) := by decide +kernel
  obtain ⟨-, hok, hperm, hnew⟩ := apply_merges nameEngine input
  refine ⟨⟨((hok _).mp hrun).2, ?_⟩, by decide +kernel, hperm objects (.swap _ _ _) ?_,
    hnew [objectAt "name" "nick"] [objectAt "id" "id", objectAt "name" "full"]
      (objectAt "nick" "nick") _ rfl (by decide) (by decide) (by decide +kernel)⟩
  · rintro ⟨err, herr⟩
    rw [hrun] at herr
    cases herr
  · intro name
    by_cases hid : "id" = name
    · subst hid
      rfl
    · have hname : ∀ path, (objectAt "id" path).name ≠ name := fun _ => hid
      simp only [objects, nameEngine, List.filter_cons, decide_eq_false (hname _),
        Bool.false_eq_true, if_false]

end Reshape.Engine
