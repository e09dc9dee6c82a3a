/-
# Fields collected over candidates

A `hash_array` maps its fields against every candidate and collects what fields of one name come
to (`collected`): candidate by candidate, and for each of them in the order in which the fields are
declared.  Nothing is lost on the way: nulls are values, and arrays are not taken apart.  Each
collection is freed of its repetitions and goes through the transform of the node by itself, and
the object has the results under the names, in the order in which the names are first declared.

Main statement: `mapNode_hashArray`.
-/
import Reshape.Proofs.Engine.Fields
import Reshape.Proofs.Json.Equality
import Reshape.Proofs.Rounds

namespace Reshape

open Json (EntryRel)

/-- Entries that are related in step, said of what is read in them. -/
theorem Entries.forall₂_entryRel_iff {α β : Type} {R : α → β → Prop} {es : Entries α}
    {fs : Entries β} (hd : Distinct es) :
    List.Forall₂ (EntryRel R) es fs ↔ keys fs = keys es ∧
      ∀ key w, get? key fs = some w → ∃ v, get? key es = some v ∧ R v w := by
  constructor
  · intro h
    clear hd
    induction h with
    | nil => exact ⟨rfl, fun key w hw => by cases hw⟩
    | @cons a b es fs hab _ ih =>
      obtain ⟨k, v⟩ := a
      obtain ⟨k', w⟩ := b
      obtain ⟨rfl, hvw⟩ := hab
      refine ⟨congrArg (k :: ·) ih.1, fun key u hu => ?_⟩
      by_cases hk : k = key
      · simp only [get?_cons, hk, if_true, Option.some.injEq] at hu ⊢
        exact ⟨v, rfl, hu ▸ hvw⟩
      · simp only [get?_cons, hk, if_false] at hu ⊢
        exact ih.2 key u hu
  · rintro ⟨hkeys, hread⟩
    induction es generalizing fs with
    | nil =>
      cases List.map_eq_nil_iff.mp hkeys
      exact .nil
    | cons a es ih =>
      obtain ⟨k, v⟩ := a
      obtain ⟨hk, hes⟩ := List.nodup_cons.mp hd
      cases fs with
      | nil => cases hkeys
      | cons b fs =>
        obtain ⟨k', w⟩ := b
        obtain ⟨rfl, htail⟩ := List.cons.inj hkeys
        obtain ⟨v', hv', hvw⟩ := hread k' w (if_pos rfl)
        rw [get?_cons, if_pos rfl, Option.some.injEq] at hv'
        subst hv'
        refine .cons ⟨rfl, hvw⟩ (ih hes htail fun key u hu => ?_)
        -- the key of the head is read in neither tail
        have hne : k' ≠ key := by
          rintro rfl
          exact hk (htail ▸ mem_keys_of_get? hu)
        obtain ⟨v', hv', hR⟩ := hread key u (by rw [get?_cons, if_neg hne]; exact hu)
        rw [get?_cons, if_neg hne] at hv'
        exact ⟨v', hv', hR⟩

namespace Engine

open Reporting

variable {e : Engine} {info : NodeInfo} {path : Path} {fields : List Node} {input found : Json}
  {params : Parameters} {candidates : List Json} {rows : List (List Json)}

/-! ## 1. Rows of values -/

/-- The fields have these values, one row for each candidate. -/
def Rows (e : Engine) (fields : List Node) (candidates : List Json) (params : Parameters)
    (rows : List (List Json)) : Prop :=
  List.Forall₂ (fun c vs => e.Values fields c params vs) candidates rows

/-- The values of the fields of a name, row by row. -/
def collected (name : String) (fields : List Node) (rows : List (List Json)) : List Json :=
  rows.flatMap fun vs => ((fields.zip vs).filter fun f => f.1.name = name).map Prod.snd

/-- What the rows write: the values under the names of the fields. -/
def rowEntries (fields : List Node) (rows : List (List Json)) : List (Entries Json) :=
  rows.map fun vs => (fields.map Node.name).zip vs

theorem flatMap_valuesOf_rowEntries (name : String) (fields : List Node)
    (rows : List (List Json)) :
    (rowEntries fields rows).flatMap (Entries.valuesOf name) = collected name fields rows := by
  rw [rowEntries, List.flatMap_map, collected]
  refine List.flatMap_congr fun vs _ => ?_
  rw [Entries.valuesOf, List.zip_map_left, List.filter_map, List.map_map]
  rfl

theorem exists_rows : (∃ rows, e.Rows fields candidates params rows) ↔
    ∀ c ∈ candidates, ∀ n ∈ fields, ∃ v, (e.mapNode n c params).result = .ok v := by
  simp only [Rows, Values, Result.exists_forall₂]

/-- The fields have one value each. -/
theorem Rows.unique {rows' : List (List Json)} (h : e.Rows fields candidates params rows)
    (h' : e.Rows fields candidates params rows') : rows = rows' := by
  refine List.right_unique_forall₂' ?_ h h'
  intro c vs ws hvs hws
  exact hvs.unique hws

theorem Rows.eq_nil_iff (h : e.Rows fields candidates params rows) :
    rows = [] ↔ candidates = [] := by
  cases h <;> simp

theorem Rows.keys_of_mem (h : e.Rows fields candidates params rows) {es : Entries Json}
    (hes : es ∈ rowEntries fields rows) : Entries.keys es = fields.map Node.name := by
  obtain ⟨vs, hvs, rfl⟩ := List.mem_map.mp hes
  obtain ⟨c, -, hc⟩ := Result.exists_of_forall₂ h hvs
  exact Values.keys_zip hc

/-- The groups of the rows: one for each name, as soon as there is a candidate. -/
theorem Rows.keys_group (h : e.Rows fields candidates params rows) :
    Entries.keys (Entries.group (rowEntries fields rows).flatten) =
      if candidates = [] then [] else (fields.map Node.name).eraseDups := by
  rw [Entries.keys_group]
  rcases List.eq_nil_or_concat (rowEntries fields rows) with hnil | ⟨front, last, hrows⟩
  · have hc : candidates = [] := h.eq_nil_iff.mp (List.map_eq_nil_iff.mp hnil)
    rw [hnil, if_pos hc]
    rfl
  · rw [List.concat_eq_append] at hrows
    have hc : candidates ≠ [] := by
      intro hc
      rw [rowEntries, h.eq_nil_iff.mpr hc] at hrows
      simp at hrows
    have hlast : Entries.keys last = fields.map Node.name := h.keys_of_mem (by simp [hrows])
    have hsame : ∀ r ∈ front, r = [] ∨ Entries.keys r = Entries.keys last :=
      fun r hr => .inr ((h.keys_of_mem (by simp [hrows, hr])).trans hlast.symm)
    rw [hrows, List.flatten_append, List.flatten_singleton, Entries.eraseDups_keys_rounds hsame,
      hlast, if_neg hc]

theorem Rows.ofList_eq (h : e.Rows fields candidates params rows) {es : Entries Json}
    (hkeys : Entries.keys es =
      if candidates = [] then [] else (fields.map Node.name).eraseDups) :
    Entries.ofList es = es := by
  refine Entries.ofList_of_distinct ?_
  rw [Entries.Distinct, hkeys, ← h.keys_group]
  exact Entries.distinct_group _

/-- The group of a name holds what was collected under it. -/
theorem get?_group_rowEntries {name : String}
    (h : name ∈ Entries.keys (Entries.group (rowEntries fields rows).flatten)) :
    Entries.get? name (Entries.group (rowEntries fields rows).flatten) =
      some (collected name fields rows) := by
  rw [Entries.keys_group, List.mem_eraseDups] at h
  rw [Entries.get?_group_flatten h, flatMap_valuesOf_rowEntries]

theorem Rows.mem_group (h : e.Rows fields candidates params rows) {name : String}
    {vs : List Json} : (name, vs) ∈ Entries.group (rowEntries fields rows).flatten ↔
      (candidates ≠ [] ∧ ∃ n ∈ fields, n.name = name) ∧ vs = collected name fields rows := by
  have hkey : name ∈ Entries.keys (Entries.group (rowEntries fields rows).flatten) ↔
      candidates ≠ [] ∧ ∃ n ∈ fields, n.name = name := by
    rw [h.keys_group]
    by_cases hc : candidates = [] <;> simp [hc]
  rw [← Entries.get?_eq_some_iff (Entries.distinct_group _), ← hkey]
  constructor
  · intro hvs
    have hmem := Entries.mem_keys_of_get? hvs
    exact ⟨hmem, Option.some.inj (hvs.symm.trans (get?_group_rowEntries hmem))⟩
  · rintro ⟨hmem, rfl⟩
    exact get?_group_rowEntries hmem

/-! ## 2. The two loops -/

/-- The values of all fields against all candidates, as entries. -/
def writtenRows (e : Engine) (fields : List Node) (candidates : List Json)
    (params : Parameters) : Reporting MappingError (List (Entries Json)) :=
  candidates.mapM fun candidate => do
    let fs ← e.mapFields fields candidate params
    pure (entriesOf fs)

theorem result_writtenRows_eq_ok {written : List (Entries Json)} :
    (e.writtenRows fields candidates params).result = .ok written ↔
      ∃ rows, e.Rows fields candidates params rows ∧ written = rowEntries fields rows := by
  rw [writtenRows, result_mapM_eq_ok]
  simp only [result_entriesOf_eq_ok, Result.forall₂_map]
  rfl

/-- Each group goes through the transform by itself. -/
theorem result_transformGroups_eq_ok {groups : Entries (List Json)} {es : Entries Json}
    (hd : Entries.Distinct groups) :
    (e.transformGroups info groups).result = .ok es ↔ Entries.keys es = Entries.keys groups ∧
      ∀ name v, Entries.get? name es = some v → ∃ vs, Entries.get? name groups = some vs ∧
        (e.transform info (.arr (Json.dedup vs))).result = .ok v := by
  have hstep : ∀ (g : String × List Json) (entry : String × Json),
      (do let v ← e.transform info (.arr (Json.dedup g.2)); pure (g.1, v)).result = .ok entry ↔
        EntryRel (fun vs v => (e.transform info (.arr (Json.dedup vs))).result = .ok v) g entry := by
    rintro ⟨name, vs⟩ ⟨name', v⟩
    rw [result_bind_eq_ok]
    constructor
    · rintro ⟨w, hw, h⟩
      cases h
      exact ⟨rfl, hw⟩
    · rintro ⟨rfl, hv⟩
      exact ⟨v, hv, rfl⟩
  rw [transformGroups, result_mapM_eq_ok]
  simp only [hstep]
  exact Entries.forall₂_entryRel_iff hd

theorem Rows.result_transformGroups_eq_ok (h : e.Rows fields candidates params rows)
    {es : Entries Json} :
    (e.transformGroups info (Entries.group (rowEntries fields rows).flatten)).result = .ok es ↔
      Entries.keys es = (if candidates = [] then [] else (fields.map Node.name).eraseDups) ∧
        ∀ name v, Entries.get? name es = some v →
          (e.transform info (.arr (Json.dedup (collected name fields rows)))).result = .ok v := by
  rw [Engine.result_transformGroups_eq_ok (Entries.distinct_group _), ← h.keys_group]
  refine and_congr_right fun hkeys => forall₂_congr fun name v => imp_congr_right fun hv => ?_
  rw [get?_group_rowEntries (hkeys ▸ Entries.mem_keys_of_get? hv)]
  simp

/-- All groups of the rows go through the transform exactly if what was collected under each name
does. -/
theorem Rows.exists_result_transformGroups (h : e.Rows fields candidates params rows) :
    (∃ es, (e.transformGroups info (Entries.group (rowEntries fields rows).flatten)).result =
      .ok es) ↔ candidates ≠ [] → ∀ n ∈ fields,
        ∃ v, (e.transform info (.arr (Json.dedup (collected n.name fields rows)))).result =
          .ok v := by
  rw [transformGroups, exists_result_mapM]
  simp only [result_bind_pure, Result.exists_map_ok]
  constructor
  · intro hall hc n hn
    exact hall _ (h.mem_group.mpr ⟨⟨hc, n, hn, rfl⟩, rfl⟩)
  · rintro hall ⟨name, vs⟩ hg
    obtain ⟨⟨hc, n, hn, rfl⟩, rfl⟩ := h.mem_group.mp hg
    exact hall hc n hn

theorem result_mapNode_hashArray_eq_ok {out : Json}
    (hf : (resolve path input).result = .ok (some found)) :
    (e.mapNode (.hashArray info path fields) input params).result = .ok out ↔
      ∃ rows es, e.Rows fields found.candidates params rows ∧
        (e.transformGroups info (Entries.group (rowEntries fields rows).flatten)).result =
          .ok es ∧ out = .obj (Entries.ofList es) := by
  have hrun : (e.mapNode (.hashArray info path fields) input params).result =
      (do let written ← e.writtenRows fields found.candidates params
          let es ← e.transformGroups info (Entries.group written.flatten)
          pure (Json.obj (Entries.ofList es))).result := by
    rw [mapNode, result_bind_of_ok hf]
    rfl
  simp only [hrun, result_bind_eq_ok, result_writtenRows_eq_ok]
  constructor
  · rintro ⟨_, ⟨rows, hrows, rfl⟩, es, hes, hout⟩
    cases hout
    exact ⟨rows, es, hrows, hes, rfl⟩
  · rintro ⟨rows, es, hrows, hes, rfl⟩
    exact ⟨_, ⟨rows, hrows, rfl⟩, es, hes, rfl⟩

/-! ## 3. The object -/

/-- **A hash array groups without loss.**  It has a value exactly if every field has one against
every candidate and every collection of values goes through the transform of the node, each freed
of its repetitions.  The object has what the transform makes of them under the names of the fields,
in the order in which the names are first declared; without candidates it is empty.  A field that
fails on a candidate, and a collection on which the transform fails, fails the node; nothing else
does. -/
theorem mapNode_hashArray (hf : (resolve path input).result = .ok (some found)) :
    (∀ out, (e.mapNode (.hashArray info path fields) input params).result = .ok out ↔
      ∃ rows es, e.Rows fields found.candidates params rows ∧ out = .obj es ∧
        Entries.keys es =
          (if found.candidates = [] then [] else (fields.map Node.name).eraseDups) ∧
        ∀ name v, Entries.get? name es = some v →
          (e.transform info (.arr (Json.dedup (collected name fields rows)))).result = .ok v) ∧
    ((∃ err, (e.mapNode (.hashArray info path fields) input params).result = .error err) ↔
      (∃ c ∈ found.candidates, ∃ n ∈ fields, ∃ err,
        (e.mapNode n c params).result = .error err) ∨
      found.candidates ≠ [] ∧ ∃ rows, e.Rows fields found.candidates params rows ∧
        ∃ n ∈ fields, ∃ err, (e.transform info
          (.arr (Json.dedup (collected n.name fields rows)))).result = .error err) := by
  constructor
  · intro out
    rw [result_mapNode_hashArray_eq_ok hf]
    constructor
    · rintro ⟨rows, es, hrows, hes, rfl⟩
      obtain ⟨hkeys, hread⟩ := hrows.result_transformGroups_eq_ok.mp hes
      exact ⟨rows, es, hrows, by rw [hrows.ofList_eq hkeys], hkeys, hread⟩
    · rintro ⟨rows, es, hrows, rfl, hkeys, hread⟩
      exact ⟨rows, es, hrows, hrows.result_transformGroups_eq_ok.mpr ⟨hkeys, hread⟩,
        by rw [hrows.ofList_eq hkeys]⟩
  · rw [Result.exists_error_iff]
    simp only [result_mapNode_hashArray_eq_ok hf]
    constructor
    · intro h
      by_cases hall : ∀ c ∈ found.candidates, ∀ n ∈ fields,
          ∃ v, (e.mapNode n c params).result = .ok v
      · obtain ⟨rows, hrows⟩ := exists_rows.mpr hall
        have hgroups : ¬∃ es, (e.transformGroups info
            (Entries.group (rowEntries fields rows).flatten)).result = .ok es :=
          fun ⟨es, hes⟩ => h ⟨_, rows, es, hrows, hes, rfl⟩
        rw [hrows.exists_result_transformGroups] at hgroups
        simp only [Classical.not_imp, not_forall] at hgroups
        obtain ⟨hc, n, hn, herr⟩ := hgroups
        exact .inr ⟨hc, rows, hrows, n, hn, Result.exists_error_iff.mpr herr⟩
      · simp only [not_forall] at hall
        obtain ⟨c, hc, n, hn, herr⟩ := hall
        exact .inl ⟨c, hc, n, hn, Result.exists_error_iff.mpr herr⟩
    · rintro hfail ⟨out, rows, es, hrows, hes, -⟩
      rcases hfail with ⟨c, hc, n, hn, herr⟩ | ⟨hc, rows', hrows', n, hn, herr⟩
      · exact Result.exists_error_iff.mp herr (exists_rows.mp ⟨rows, hrows⟩ c hc n hn)
      · cases hrows.unique hrows'
        exact Result.exists_error_iff.mp herr
          (hrows.exists_result_transformGroups.mp ⟨es, hes⟩ hc n hn)

/-! ## 4. Places of a census -/

/-- Cities and towns are places; their codes are arrays. -/
def censusFields : List Node :=
  [.valueAt "place" "city", .valueAt "codes" "codes", .valueAt "place" "town"]

/-- The census asks for the greatest value under each name. -/
def greatestInfo : NodeInfo :=
  { NodeInfo.named "census" with transform := some (.ofStrings ["max_array_value"]) }

/-- An input with rows. -/
def census (rows : List Json) : Json := .obj [("rows", .arr rows)]

/-- Two rows from one city, and one that has neither a city nor a town. -/
def censusRows : List Json :=
  [.obj [("city", .str "Oslo"), ("codes", .arr [.int 1])],
    .obj [("city", .str "Oslo"), ("codes", .arr [.int 1]), ("town", .str "Moss")],
    .obj [("codes", .arr [.int 2, .int 1])]]

/-- A row of which the places have a greatest one, and the codes do not. -/
def unorderedRow : Json :=
  .obj [("city", .str "Oslo"), ("codes", .arr [.int 1]), ("town", .str "Moss")]

theorem census_grouped :
    (resolve (.ofString "rows") (census censusRows)).result = .ok (some (.arr censusRows)) ∧
    (builtin.mapNode (.hashArray (.named "census") (.ofString "rows") censusFields)
      (census censusRows) []).result =
        .ok (.obj [("place", .arr [.str "Oslo", .null, .str "Moss"]),
          ("codes", .arr [.arr [.int 1], .arr [.int 2, .int 1]])]) ∧
    (∃ rows, builtin.Rows censusFields censusRows [] rows ∧
      Json.dedup (collected "place" censusFields rows) = [.str "Oslo", .null, .str "Moss"]) ∧
    ∃ err, (builtin.mapNode (.hashArray greatestInfo (.ofString "rows") censusFields)
      (census [unorderedRow]) []).result = .error err := by
  have hf : (resolve (.ofString "rows") (census censusRows)).result =
      .ok (some (.arr censusRows)) := rfl
  have hrun : (builtin.mapNode (.hashArray (.named "census") (.ofString "rows") censusFields)
      (census censusRows) []).result =
        .ok (.obj [("place", .arr [.str "Oslo", .null, .str "Moss"]),
          ("codes", .arr [.arr [.int 1], .arr [.int 2, .int 1]])]) := by
    decide +kernel
  have hrow : builtin.Rows censusFields [unorderedRow] []
      [[.str "Oslo", .arr [.int 1], .str "Moss"]] :=
    .cons (.cons rfl (.cons rfl (.cons rfl .nil))) .nil
  have hf' : (resolve (.ofString "rows") (census [unorderedRow])).result =
      .ok (some (.arr [unorderedRow])) := rfl
  have hmax : ∃ n ∈ censusFields, ∃ err, (builtin.transform greatestInfo
      (.arr (Json.dedup (collected n.name censusFields
        [[.str "Oslo", .arr [.int 1], .str "Moss"]])))).result = .error err :=
    ⟨_, List.mem_cons_of_mem _ List.mem_cons_self, _, rfl⟩
  obtain ⟨rows, es, hrows, hes, -, hread⟩ := ((mapNode_hashArray hf).1 _).mp hrun
  cases hes
  exact ⟨hf, hrun, ⟨rows, hrows, Json.arr.inj (Except.ok.inj (hread "place" _ rfl))⟩,
    (mapNode_hashArray hf').2.mpr (.inr ⟨by decide, _, hrow, hmax⟩)⟩

end Engine

end Reshape
