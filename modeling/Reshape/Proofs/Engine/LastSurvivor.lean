/-
# The last survivor of a hash

A `hash` maps its fields against one candidate after the other and writes all that they come to
into one object.  Every candidate that survives the conditions of the node writes every field, so
the last survivor overwrites what all before it wrote: the object is that of the last survivor
alone.  A field that it lacks falls back on its default, whatever an earlier candidate had there.
The candidates that are overwritten are still mapped, and an error in any of them is one of the
node.

Main statement: `mapNode_hash`.
-/
import Reshape.Proofs.Engine.Whitelist
import Reshape.Proofs.Rounds

namespace Reshape

/-- What a node comes to where its path leads to nothing: for a plain value its default, filled, or
null. -/
def Node.absentValue (params : Parameters) : Node → Json
  | .value info _ => (info.default.map (Template.fill params)).getD .null
  | n => n.fallback

namespace Engine

open Reporting

variable {e : Engine} {info : NodeInfo} {path : Path} {fields : List Node} {input found : Json}
  {params : Parameters} {c item : Json}

theorem result_mapNode_of_absent {n : Node} (hp : n.path? = some path)
    (hr : (resolve path input).result = .ok none) :
    (e.mapNode n input params).result = .ok (n.absentValue params) := by
  cases n with
  | value =>
    cases hp
    rw [mapNode, mapValue]
    exact result_bind_of_ok hr _
  | nested => cases hp
  | array => cases hp
  | mergeArrays => cases hp
  | _ =>
    cases hp
    rw [mapNode]
    exact result_bind_of_ok hr _

/-! ## 1. What one candidate writes -/

/-- The conditions of a node leave something of a candidate. -/
def Survives (e : Engine) (info : NodeInfo) (c : Json) : Prop :=
  ∃ item, (e.filterCandidate info c).result = .ok (some item)

/-- What a candidate writes: a value for every field, or nothing if it does not survive. -/
def writes (e : Engine) (info : NodeInfo) (fields : List Node) (params : Parameters)
    (candidate : Json) : Reporting MappingError (Entries Json) := do
  match ← e.filterCandidate info candidate with
  | none => pure []
  | some item =>
    let fs ← e.mapFields fields item params
    pure (entriesOf fs)

/-- Something fails on a candidate: a condition, or a field against what they leave of it. -/
inductive FailsOn (e : Engine) (info : NodeInfo) (fields : List Node) (params : Parameters)
    (c : Json) : Prop
  | condition {err : MappingError} (h : (e.filterCandidate info c).result = .error err)
  | field {item : Json} {n : Node} {err : MappingError}
      (h : (e.filterCandidate info c).result = .ok (some item)) (hn : n ∈ fields)
      (herr : (e.mapNode n item params).result = .error err)

theorem result_mapNode_hash (hf : (resolve path input).result = .ok (some found)) :
    (e.mapNode (.hash info path fields) input params).result =
      (found.candidates.mapM (e.writes info fields params)).result.map
        fun written => .obj (Entries.ofList written.flatten) := by
  rw [mapNode, result_bind_of_ok hf]
  exact result_bind_pure _ _

theorem result_writes_of_not_survives {es : Entries Json} (hc : ¬e.Survives info c)
    (h : (e.writes info fields params c).result = .ok es) : es = [] := by
  obtain ⟨item?, hi, h⟩ := result_bind_eq_ok.mp h
  cases item? with
  | none =>
    cases h
    rfl
  | some item => exact absurd ⟨item, hi⟩ hc

theorem result_writes_eq_ok {es : Entries Json}
    (hi : (e.filterCandidate info c).result = .ok (some item)) :
    (e.writes info fields params c).result = .ok es ↔
      ∃ vs, e.Values fields item params vs ∧ es = (fields.map Node.name).zip vs := by
  rw [writes, result_bind_of_ok hi]
  exact result_entriesOf_eq_ok

/-- A candidate writes all fields or none. -/
theorem keys_of_result_writes {es : Entries Json}
    (h : (e.writes info fields params c).result = .ok es) :
    es = [] ∨ Entries.keys es = fields.map Node.name := by
  by_cases hc : e.Survives info c
  · obtain ⟨item, hi⟩ := hc
    obtain ⟨vs, hvs, rfl⟩ := (result_writes_eq_ok hi).mp h
    exact .inr hvs.keys_zip
  · exact .inl (result_writes_of_not_survives hc h)

theorem not_failsOn_iff :
    (∃ es, (e.writes info fields params c).result = .ok es) ↔ ¬FailsOn e info fields params c := by
  constructor
  · rintro ⟨es, h⟩ hfails
    cases hfails with
    | condition herr =>
      obtain ⟨item?, hi, -⟩ := result_bind_eq_ok.mp h
      rw [herr] at hi
      cases hi
    | field hi hn herr =>
      obtain ⟨vs, hvs, -⟩ := (result_writes_eq_ok hi).mp h
      obtain ⟨v, hv⟩ := Result.exists_forall₂.mp ⟨vs, hvs⟩ _ hn
      rw [herr] at hv
      cases hv
  · intro hfails
    cases hi : (e.filterCandidate info c).result with
    | error err => exact absurd (.condition hi) hfails
    | ok item? =>
      cases item? with
      | none =>
        refine ⟨[], ?_⟩
        rw [writes, result_bind_of_ok hi]
        rfl
      | some item =>
        have hvalues : ∀ n ∈ fields, ∃ v, (e.mapNode n item params).result = .ok v := by
          intro n hn
          by_contra hnone
          obtain ⟨err, herr⟩ := Result.exists_error_iff.mpr hnone
          exact hfails (.field hi hn herr)
        obtain ⟨vs, hvs⟩ := Result.exists_forall₂.mpr hvalues
        exact ⟨_, (result_writes_eq_ok hi).mpr ⟨vs, hvs, rfl⟩⟩

/-! ## 2. What is left of all candidates -/

/-- What survivors wrote before the last of them is gone, and nothing is written after it. -/
theorem ofList_flatten_of_isLast {written : List (Entries Json)} {vs : List Json}
    (hw : (found.candidates.mapM (e.writes info fields params)).result = .ok written)
    (hlast : IsLast (e.Survives info) found.candidates c)
    (hi : (e.filterCandidate info c).result = .ok (some item))
    (hvs : e.Values fields item params vs) :
    Entries.ofList written.flatten = Entries.ofList ((fields.map Node.name).zip vs) := by
  obtain ⟨before, after, hsplit, -, hafter⟩ := hlast
  rw [hsplit, result_mapM_eq_ok] at hw
  obtain ⟨rounds, last, rest, rfl, hrounds, hlast, hrest⟩ := Result.forall₂_append_cons_left hw
  obtain ⟨ws, hws, rfl⟩ := (result_writes_eq_ok hi).mp hlast
  cases hws.unique hvs
  have hsame : ∀ r ∈ rounds, r = [] ∨ Entries.keys r =
      Entries.keys ((fields.map Node.name).zip vs) := by
    intro r hr
    obtain ⟨b, -, hb⟩ := Result.exists_of_forall₂ hrounds hr
    rw [hvs.keys_zip]
    exact keys_of_result_writes hb
  have hnothing : rest.flatten = [] := by
    refine List.flatten_eq_nil_iff.mpr fun r hr => ?_
    obtain ⟨a, ha, hwrites⟩ := Result.exists_of_forall₂ hrest hr
    exact result_writes_of_not_survives (hafter a ha) hwrites
  rw [List.flatten_append, List.flatten_cons, hnothing, List.append_nil,
    Entries.ofList_rounds hsame]

/-- Under the name of a field stands its value, if no later field has that name. -/
theorem get?_of_values {n : Node} {vs : List Json} {v : Json} {es : Entries Json}
    (hvs : e.Values fields item params vs)
    (hw : Entries.Written ((fields.map Node.name).zip vs) es)
    (hn : IsLast (fun m => m.name = n.name) fields n)
    (hv : (e.mapNode n item params).result = .ok v) : Entries.get? n.name es = some v := by
  let value (m : Node) : Json := (e.mapNode m item params).result.toOption.getD .null
  have hmap : fields.map value = vs := by
    rw [← List.forall₂_eq_eq_eq, List.forall₂_map_left_iff]
    refine hvs.imp fun m w hm => ?_
    simp only [value, hm]
    rfl
  rw [hw.get?, ← hmap, List.zip_map', Entries.get?_reverse_map]
  refine ⟨n, hn, ?_⟩
  simp only [value, hv]
  rfl

/-- **A hash is the object of its last survivor.**  Where candidates survive the conditions of the
node, it has the values of the fields against what the conditions leave of the last of them, under
the names of the fields, and it is what the node makes of that candidate alone.  A field whose path
leads to nothing there falls back on its default.  Where none survives the object is empty.  The
node fails exactly if something fails on one of the candidates, be it overwritten or not. -/
theorem mapNode_hash (hf : (resolve path input).result = .ok (some found)) :
    (∀ out, (e.mapNode (.hash info path fields) input params).result = .ok out →
      ((∃ c ∈ found.candidates, e.Survives info c) →
        ∃ c item vs es, IsLast (e.Survives info) found.candidates c ∧
          (e.filterCandidate info c).result = .ok (some item) ∧
          e.Values fields item params vs ∧ out = .obj es ∧
          Entries.Written ((fields.map Node.name).zip vs) es ∧
          (∀ input', (resolve path input').result = .ok (some (.arr [c])) →
            (e.mapNode (.hash info path fields) input' params).result = .ok out) ∧
          ∀ n p, IsLast (fun m => m.name = n.name) fields n → n.path? = some p →
            (resolve p item).result = .ok none →
            Entries.get? n.name es = some (n.absentValue params)) ∧
      ((∀ c ∈ found.candidates, ¬e.Survives info c) → out = .obj [])) ∧
    ((∃ err, (e.mapNode (.hash info path fields) input params).result = .error err) ↔
      ∃ c ∈ found.candidates, FailsOn e info fields params c) := by
  rw [result_mapNode_hash hf]
  refine ⟨fun out hout => ⟨fun hsurvivor => ?_, fun hnone => ?_⟩, ?_⟩
  · obtain ⟨written, hw, rfl⟩ := Result.map_eq_ok.mp hout
    obtain ⟨c, hlast⟩ := exists_isLast hsurvivor
    obtain ⟨item, hi⟩ := hlast.property
    obtain ⟨es, hes⟩ := exists_result_mapM.mp ⟨written, hw⟩ c hlast.mem
    obtain ⟨vs, hvs, rfl⟩ := (result_writes_eq_ok hi).mp hes
    have hwritten := Entries.written_ofList ((fields.map Node.name).zip vs)
    rw [ofList_flatten_of_isLast hw hlast hi hvs]
    refine ⟨c, item, vs, _, hlast, hi, hvs, rfl, hwritten, fun input' hf' => ?_,
      fun n p hn hp hr => get?_of_values hvs hwritten hn (result_mapNode_of_absent hp hr)⟩
    have hone : ([c].mapM (e.writes info fields params)).result =
        .ok [(fields.map Node.name).zip vs] := result_mapM_eq_ok.mpr (.cons hes .nil)
    rw [result_mapNode_hash hf', Json.candidates, hone]
    exact congrArg (fun es => Except.ok (Json.obj (Entries.ofList es))) (List.append_nil _)
  · obtain ⟨written, hw, rfl⟩ := Result.map_eq_ok.mp hout
    have hnothing : written.flatten = [] := by
      refine List.flatten_eq_nil_iff.mpr fun es hes => ?_
      obtain ⟨c, hc, hwrites⟩ := Result.exists_of_forall₂ (result_mapM_eq_ok.mp hw) hes
      exact result_writes_of_not_survives (hnone c hc) hwrites
    rw [hnothing]
    rfl
  · rw [Result.exists_error_iff, Result.exists_map_ok, exists_result_mapM]
    simp only [not_failsOn_iff, not_forall, not_not, exists_prop]

/-! ## 3. Rows of a sheet -/

/-- An engine with a condition that holds of what is not blank. -/
def sheetEngine : Engine :=
  { builtin with conditions := ⟨[("filled", fun v => !v.isBlank)]⟩ }

/-- What the node of a sheet says: rows must not be blank. -/
def sheetInfo : NodeInfo :=
  { NodeInfo.named "sheet" with conditions := some [⟨"filled", none, none⟩] }

/-- The color of a row, and its sizes. -/
def sheetFields : List Node :=
  [.value { NodeInfo.named "color" with default := some (.str "plain") }
      (some (.ofString "color")),
    .valueAt "sizes" "sizes/*"]

/-- An input with rows. -/
def sheet (rows : List Json) : Json := .obj [("rows", .arr rows)]

/-- A red row, a row without a color, and an empty one. -/
def sheetRows : List Json :=
  [.obj [("color", .str "red"), ("sizes", .arr [.int 1])], .obj [("sizes", .arr [.int 2])],
    .obj []]

/-- A row whose sizes are no array, in front of one that would overwrite it. -/
def brokenRows : List Json := [.obj [("sizes", .int 1)], .obj [("sizes", .arr [.int 2])]]

theorem sheet_lastSurvivor :
    (resolve (.ofString "rows") (sheet sheetRows)).result = .ok (some (.arr sheetRows)) ∧
    (sheetEngine.mapNode (.hash sheetInfo (.ofString "rows") sheetFields) (sheet sheetRows)
      []).result = .ok (.obj [("color", .str "plain"), ("sizes", .arr [.int 2])]) ∧
    (∃ c item vs, IsLast (sheetEngine.Survives sheetInfo) sheetRows c ∧
      (sheetEngine.filterCandidate sheetInfo c).result = .ok (some item) ∧
      sheetEngine.Values sheetFields item [] vs ∧
      Entries.Written ((sheetFields.map Node.name).zip vs)
        [("color", .str "plain"), ("sizes", .arr [.int 2])]) ∧
    ∃ c ∈ brokenRows, FailsOn sheetEngine sheetInfo sheetFields [] c := by
  have hf : (resolve (.ofString "rows") (sheet sheetRows)).result =
      .ok (some (.arr sheetRows)) := rfl
  have hrun : (sheetEngine.mapNode (.hash sheetInfo (.ofString "rows") sheetFields)
      (sheet sheetRows) []).result = .ok (.obj [("color", .str "plain"), ("sizes", .arr [.int 2])]) := by
    decide +kernel
  have hbroken : (sheetEngine.mapNode (.hash sheetInfo (.ofString "rows") sheetFields)
      (sheet brokenRows) []).result = .error (.notArray ⟨["sizes"], ⟨["sizes", "*"]⟩⟩) := by
    decide +kernel
  have hsurvivor : ∃ c ∈ (Json.arr sheetRows).candidates, sheetEngine.Survives sheetInfo c :=
    ⟨_, List.mem_cons_self, _, rfl⟩
  have hf' : (resolve (.ofString "rows") (sheet brokenRows)).result =
      .ok (some (.arr brokenRows)) := rfl
  obtain ⟨-, hfails⟩ := mapNode_hash (e := sheetEngine) hf'
  obtain ⟨c, item, vs, es, hlast, hi, hvs, hes, hw, -⟩ :=
    ((mapNode_hash hf).1 _ hrun).1 hsurvivor
  cases hes
  exact ⟨hf, hrun, ⟨c, item, vs, hlast, hi, hvs, hw⟩,
    hfails.mp ⟨_, hbroken⟩⟩

end Engine

end Reshape
