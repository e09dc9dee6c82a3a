/-
# Filtering as an accumulation of filters

A run of `ConditionSet.apply` goes through the specs and, for each of them, through the
candidates, and it can stop in the middle of both loops.  Nothing of that order is left in a
result.  A spec that can be evaluated (`Evaluates`) is one filter of the candidates
(`matching`); what it contributes depends on that filter alone (`Contributes`), and the
contributions collapse to one value (`Collapses`).  The first spec that cannot be evaluated is
the failure of the run (`Fails`).

Main statement: `apply_accumulates`.
-/
import Reshape.Json.Equality
import Reshape.Proofs.Condition.Filtering

namespace Reshape.ConditionSet

open Reporting

variable {cs : ConditionSet} {spec : ConditionSpec} {c : Json} {value : Json}

/-! ## 1. The filter of a spec -/

/-- The field of a spec can be resolved in a candidate; it need not be there. -/
def Reads (spec : ConditionSpec) (c : Json) : Prop :=
  ∀ path, spec.field = some path → ∃ found, (path.resolve c).result = .ok found

/-- The value of the field of a spec in a candidate: null where the field is absent, and the
candidate itself where the spec has no field. -/
def fieldValue (spec : ConditionSpec) (c : Json) : Json :=
  match spec.field with
  | none => c
  | some path =>
    match (path.resolve c).result with
    | .ok (some found) => found
    | _ => .null

/-- Does the predicate that a spec names hold of the value of its field? -/
def meets (cs : ConditionSet) (spec : ConditionSpec) (c : Json) : Bool :=
  (Entries.get? spec.name cs.entries).any fun p => p (fieldValue spec c)

/-- The candidates that a spec matches, in order and with repetitions. -/
def matching (cs : ConditionSet) (spec : ConditionSpec) (value : Json) : List Json :=
  value.candidates.filter (cs.meets spec)

/-- What a spec that can be evaluated comes to. -/
def mark (cs : ConditionSet) (value : Json) (spec : ConditionSpec) : Option Json :=
  contribution value.isMany spec (cs.matching spec value)

theorem looksAt_iff {s : Json} : LooksAt spec c s ↔ Reads spec c ∧ s = fieldValue spec c := by
  constructor
  · rintro (h | ⟨h, hr⟩)
    · refine ⟨fun path hp => ?_, by rw [fieldValue, h]⟩
      rw [h] at hp
      cases hp
    · rename_i found
      refine ⟨fun path' hp => ?_, by rw [fieldValue, h]; cases found <;> simp [hr]⟩
      rw [h] at hp
      cases hp
      exact ⟨found, hr⟩
  · rintro ⟨hread, rfl⟩
    cases hf : spec.field with
    | none =>
      have hs : fieldValue spec c = c := by rw [fieldValue, hf]
      rw [hs]
      exact .itself hf
    | some path =>
      obtain ⟨found, hr⟩ := hread path hf
      have hs : fieldValue spec c = found.getD .null := by
        rw [fieldValue, hf]
        cases found <;> simp [hr]
      rw [hs]
      exact .field hf hr

theorem verdict_iff (hd : Entries.contains spec.name cs.entries = true) {b : Bool} :
    Verdict cs spec c b ↔ Reads spec c ∧ b = cs.meets spec c := by
  obtain ⟨p, hp⟩ := Option.isSome_iff_exists.mp hd
  have hmeets : cs.meets spec c = p (fieldValue spec c) := by rw [meets, hp, Option.any_some]
  rw [hmeets]
  constructor
  · rintro ⟨hp', hs⟩
    rw [hp, Option.some.injEq] at hp'
    subst hp'
    obtain ⟨hread, rfl⟩ := looksAt_iff.mp hs
    exact ⟨hread, rfl⟩
  · rintro ⟨hread, rfl⟩
    exact .of hp (looksAt_iff.mpr ⟨hread, rfl⟩)

/-- A spec with a name that is defined selects by a filter. -/
theorem selects_iff (hd : Entries.contains spec.name cs.entries = true)
    {candidates matched : List Json} :
    Selects cs spec candidates matched ↔
      (∀ c ∈ candidates, Reads spec c) ∧ matched = candidates.filter (cs.meets spec) := by
  constructor
  · intro h
    induction h with
    | nil => exact ⟨by simp, rfl⟩
    | keep hv _ ih =>
      obtain ⟨hread, hm⟩ := (verdict_iff hd).mp hv
      obtain ⟨hrest, rfl⟩ := ih
      exact ⟨List.forall_mem_cons.mpr ⟨hread, hrest⟩, by rw [List.filter_cons_of_pos hm.symm]⟩
    | drop hv _ ih =>
      obtain ⟨hread, hm⟩ := (verdict_iff hd).mp hv
      obtain ⟨hrest, rfl⟩ := ih
      exact ⟨List.forall_mem_cons.mpr ⟨hread, hrest⟩,
        by rw [List.filter_cons_of_neg (by simp [← hm])]⟩
  · rintro ⟨hread, rfl⟩
    induction candidates with
    | nil => exact .nil
    | cons c candidates ih =>
      obtain ⟨hc, hrest⟩ := List.forall_mem_cons.mp hread
      have hv : Verdict cs spec c (cs.meets spec c) := (verdict_iff hd).mpr ⟨hc, rfl⟩
      cases hm : cs.meets spec c <;> rw [hm] at hv
      · rw [List.filter_cons_of_neg (by simp [hm])]
        exact .drop hv (ih hrest)
      · rw [List.filter_cons_of_pos hm]
        exact .keep hv (ih hrest)

/-! ## 2. One spec -/

/-- A spec can be evaluated on a value: its name is defined, and its field can be resolved in
every candidate. -/
structure Evaluates (cs : ConditionSet) (value : Json) (spec : ConditionSpec) : Prop where
  defined : Entries.contains spec.name cs.entries = true
  reads : ∀ c ∈ value.candidates, Reads spec c

/-- Why a spec cannot be evaluated.  An undefined name is noticed before any candidate is looked
at; otherwise the first candidate in which the field cannot be resolved says why. -/
inductive Fails (cs : ConditionSet) (value : Json) (spec : ConditionSpec) : MappingError → Prop
  | unknown (h : Entries.contains spec.name cs.entries = false) :
      Fails cs value spec (.condition (.unknown spec.name))
  | field {before after : List Json} {c : Json} {path : Path} {failure : Path.Failure}
      (hd : Entries.contains spec.name cs.entries = true)
      (hc : value.candidates = before ++ c :: after) (hbefore : ∀ b ∈ before, Reads spec b)
      (hf : spec.field = some path) (hr : (path.resolve c).result = .error failure) :
      Fails cs value spec (.notArray failure)

/-- A spec comes to what its filter makes of the candidates. -/
theorem result_applySpec_iff {o : Option Json} :
    (cs.applySpec value spec).result = .ok o ↔
      Evaluates cs value spec ∧ o = cs.mark value spec := by
  rw [result_applySpec_eq_ok]
  constructor
  · rintro ⟨hd, matched, hs, rfl⟩
    obtain ⟨hread, rfl⟩ := (selects_iff hd).mp hs
    exact ⟨⟨hd, hread⟩, rfl⟩
  · rintro ⟨⟨hd, hread⟩, rfl⟩
    exact ⟨hd, _, (selects_iff hd).mpr ⟨hread, rfl⟩, rfl⟩

theorem exists_result_applySpec :
    (∃ o, (cs.applySpec value spec).result = .ok o) ↔ Evaluates cs value spec := by
  constructor
  · rintro ⟨o, h⟩
    exact (result_applySpec_iff.mp h).1
  · intro h
    exact ⟨_, result_applySpec_iff.mpr ⟨h, rfl⟩⟩

theorem exists_result_subject : (∃ s, (subject spec c).result = .ok s) ↔ Reads spec c := by
  constructor
  · rintro ⟨s, h⟩
    exact (looksAt_iff.mp (result_subject_eq_ok.mp h)).1
  · intro h
    exact ⟨_, result_subject_eq_ok.mpr (looksAt_iff.mpr ⟨h, rfl⟩)⟩

theorem result_subject_eq_error {e : MappingError} :
    (subject spec c).result = .error e ↔ ∃ path failure, spec.field = some path ∧
      (path.resolve c).result = .error failure ∧ e = .notArray failure := by
  cases hf : spec.field with
  | none => simp [subject, hf]
  | some path =>
    rw [subject, hf]
    constructor
    · intro h
      rcases result_bind_eq_error.mp h with h | ⟨found, -, h⟩
      · obtain ⟨failure, hr, rfl⟩ := Result.mapError_eq_error.mp h
        exact ⟨path, failure, rfl, hr, rfl⟩
      · cases h
    · rintro ⟨path', failure, hp, hr, rfl⟩
      cases hp
      exact result_bind_eq_error.mpr (.inl (Result.mapError_eq_error.mpr ⟨failure, hr, rfl⟩))

/-- Filtering fails at the first candidate whose field cannot be resolved. -/
theorem result_select_eq_error {p : Predicate} {candidates : List Json} {e : MappingError} :
    (select p spec candidates).result = .error e ↔
      ∃ before c after, candidates = before ++ c :: after ∧ (∀ b ∈ before, Reads spec b) ∧
        (subject spec c).result = .error e := by
  rw [select, result_bind_pure, Result.map_eq_error, result_mapM_eq_error]
  -- Whether a candidate is kept or dropped, its mark fails exactly where its subject does.
  simp only [result_bind_pure, Result.map_eq_error, Result.exists_map_ok, exists_result_subject]

theorem result_applySpec_eq_error {e : MappingError} :
    (cs.applySpec value spec).result = .error e ↔ Fails cs value spec e := by
  rw [applySpec]
  cases hp : Entries.get? spec.name cs.entries with
  | none =>
    have hd : Entries.contains spec.name cs.entries = false := by rw [Entries.contains, hp]; rfl
    constructor
    · intro h
      cases h
      exact .unknown hd
    · rintro (- | ⟨hd', -⟩)
      · rfl
      · rw [hd] at hd'
        cases hd'
  | some p =>
    have hd : Entries.contains spec.name cs.entries = true := by rw [Entries.contains, hp]; rfl
    constructor
    · intro h
      rcases result_bind_eq_error.mp h with h | ⟨matched, -, h⟩
      · obtain ⟨before, c, after, hc, hbefore, hs⟩ := result_select_eq_error.mp h
        obtain ⟨path, failure, hf, hr, rfl⟩ := result_subject_eq_error.mp hs
        exact .field hd hc hbefore hf hr
      · cases h
    · rintro (hd' | ⟨-, hc, hbefore, hf, hr⟩)
      · rw [hd] at hd'
        cases hd'
      · exact result_bind_eq_error.mpr (.inl (result_select_eq_error.mpr
          ⟨_, _, _, hc, hbefore, result_subject_eq_error.mpr ⟨_, _, hf, hr, rfl⟩⟩))

/-! ## 3. All specs -/

/-- What specs contribute, in their order.  A spec that matches nothing is passed over; any other
contributes its output or, without one, its matches in the shape of the value. -/
inductive Contributes (cs : ConditionSet) (value : Json) : List ConditionSpec → List Json → Prop
  | nil : Contributes cs value [] []
  | skip {spec : ConditionSpec} {specs : List ConditionSpec} {vs : List Json}
      (hm : cs.matching spec value = []) (hrest : Contributes cs value specs vs) :
      Contributes cs value (spec :: specs) vs
  | output {spec : ConditionSpec} {specs : List ConditionSpec} {vs : List Json} {v : Json}
      (hm : cs.matching spec value ≠ []) (ho : spec.output = some v)
      (hrest : Contributes cs value specs vs) : Contributes cs value (spec :: specs) (v :: vs)
  | sequence {spec : ConditionSpec} {specs : List ConditionSpec} {vs items : List Json}
      (hm : cs.matching spec value ≠ []) (ho : spec.output = none) (hv : value = .arr items)
      (hrest : Contributes cs value specs vs) :
      Contributes cs value (spec :: specs) (.arr (cs.matching spec value) :: vs)
  | bare {spec : ConditionSpec} {specs : List ConditionSpec} {vs : List Json}
      (hm : cs.matching spec value ≠ []) (ho : spec.output = none)
      (hv : ∀ items, value ≠ .arr items) (hrest : Contributes cs value specs vs) :
      Contributes cs value (spec :: specs) (value :: vs)

/-- What contributions come to: none is no value, one is itself, and several are an array. -/
inductive Collapses : List Json → Option Json → Prop
  | none : Collapses [] none
  | one (v : Json) : Collapses [v] (some v)
  | several {vs : List Json} (h : 2 ≤ vs.length) : Collapses vs (some (.arr vs))

theorem mark_eq_none_iff : cs.mark value spec = none ↔ cs.matching spec value = [] := by
  rw [mark, contribution]
  cases cs.matching spec value <;> simp

theorem mark_of_output {v : Json} (hm : cs.matching spec value ≠ []) (ho : spec.output = some v) :
    cs.mark value spec = some v := by
  rw [mark, contribution, if_neg (by simpa using hm), ho, Option.getD_some]

theorem mark_of_arr {items : List Json} (hm : cs.matching spec (.arr items) ≠ [])
    (ho : spec.output = none) :
    cs.mark (.arr items) spec = some (.arr (cs.matching spec (.arr items))) := by
  rw [mark, contribution, if_neg (by simpa using hm), ho, Option.getD_none]
  rfl

/-- A value that is no array is matched as a whole or not at all. -/
theorem mark_of_not_arr (hv : ∀ items, value ≠ .arr items) (hm : cs.matching spec value ≠ [])
    (ho : spec.output = none) : cs.mark value spec = some value := by
  have hmany : value.isMany = false := by
    cases value with
    | arr items => exact absurd rfl (hv items)
    | _ => rfl
  have hone : cs.matching spec value = [value] := by
    rw [matching, candidates_of_not_many hmany] at hm ⊢
    cases h : cs.meets spec value with
    | false => exact absurd (List.filter_cons_of_neg (by simp [h])) hm
    | true => rw [List.filter_cons_of_pos h, List.filter_nil]
  rw [mark, hone, hmany, contribution, ho]
  rfl

theorem contributes_iff {specs : List ConditionSpec} {vs : List Json} :
    Contributes cs value specs vs ↔ vs = specs.filterMap (cs.mark value) := by
  constructor
  · intro h
    induction h with
    | nil => rfl
    | skip hm _ ih => rw [List.filterMap_cons_none (mark_eq_none_iff.mpr hm), ih]
    | output hm ho _ ih => rw [List.filterMap_cons_some (mark_of_output hm ho), ih]
    | sequence hm ho hv _ ih =>
      subst hv
      rw [List.filterMap_cons_some (mark_of_arr hm ho), ih]
    | bare hm ho hv _ ih => rw [List.filterMap_cons_some (mark_of_not_arr hv hm ho), ih]
  · rintro rfl
    induction specs with
    | nil => exact .nil
    | cons spec specs ih =>
      by_cases hm : cs.matching spec value = []
      · rw [List.filterMap_cons_none (mark_eq_none_iff.mpr hm)]
        exact .skip hm ih
      · cases ho : spec.output with
        | some v =>
          rw [List.filterMap_cons_some (mark_of_output hm ho)]
          exact .output hm ho ih
        | none =>
          by_cases hv : ∃ items, value = .arr items
          · obtain ⟨items, rfl⟩ := hv
            rw [List.filterMap_cons_some (mark_of_arr hm ho)]
            exact .sequence hm ho rfl ih
          · have hv : ∀ items, value ≠ .arr items := fun items h => hv ⟨items, h⟩
            rw [List.filterMap_cons_some (mark_of_not_arr hv hm ho)]
            exact .bare hm ho hv ih

theorem combine_eq_none_iff {vs : List Json} : combine vs = none ↔ vs = [] := by
  match vs with
  | [] => simp [combine]
  | [_] => simp [combine]
  | _ :: _ :: _ => simp [combine]

theorem collapses_iff {vs : List Json} {o : Option Json} : Collapses vs o ↔ o = combine vs := by
  constructor
  · rintro (_ | _ | h)
    · rfl
    · rfl
    · match vs, h with
      | _ :: _ :: _, _ => rfl
  · rintro rfl
    match vs with
    | [] => exact .none
    | [v] => exact .one v
    | _ :: _ :: _ => exact .several (by simp)

/-- The result of a run collapses the results of its specs. -/
theorem result_apply (cs : ConditionSet) (value : Json) (specs : List ConditionSpec) :
    (cs.apply value specs).result =
      (specs.mapM fun spec => (cs.applySpec value spec).result).map
        fun marks => combine (marks.filterMap id) := by
  rw [apply, result_bind_pure, result_mapM]

/-- A run succeeds exactly if all specs can be evaluated. -/
theorem result_apply_iff {specs : List ConditionSpec} {o : Option Json} :
    (cs.apply value specs).result = .ok o ↔
      (∀ spec ∈ specs, Evaluates cs value spec) ∧
        o = combine (specs.filterMap (cs.mark value)) := by
  have hmarks (marks : List (Option Json)) :
      (specs.mapM fun spec => (cs.applySpec value spec).result) = .ok marks ↔
        (∀ spec ∈ specs, Evaluates cs value spec) ∧ marks = specs.map (cs.mark value) := by
    have hmap : List.Forall₂ (fun spec o => o = cs.mark value spec) specs marks ↔
        marks = specs.map (cs.mark value) := by
      rw [eq_comm, ← List.forall₂_eq_eq_eq, List.forall₂_map_left_iff]
      simp only [eq_comm]
    rw [Result.mapM_eq_ok, ← hmap]
    simp only [result_applySpec_iff, List.forall₂_and_left]
  rw [result_apply, Result.map_eq_ok]
  constructor
  · rintro ⟨marks, hm, rfl⟩
    obtain ⟨heval, rfl⟩ := (hmarks marks).mp hm
    exact ⟨heval, by rw [List.filterMap_map]; rfl⟩
  · rintro ⟨heval, rfl⟩
    exact ⟨_, (hmarks _).mpr ⟨heval, rfl⟩, by rw [List.filterMap_map]; rfl⟩

/-- A run fails with the failure of the first spec that cannot be evaluated. -/
theorem result_apply_eq_error {specs : List ConditionSpec} {e : MappingError} :
    (cs.apply value specs).result = .error e ↔
      ∃ before spec after, specs = before ++ spec :: after ∧
        (∀ s ∈ before, Evaluates cs value s) ∧ Fails cs value spec e := by
  rw [result_apply, Result.map_eq_error, Result.mapM_eq_error]
  simp only [exists_result_applySpec, result_applySpec_eq_error]

/-- A spec that matches nothing leaves no trace. -/
theorem result_apply_delete {before after : List ConditionSpec}
    (he : Evaluates cs value spec) (hm : cs.matching spec value = []) :
    (cs.apply value (before ++ spec :: after)).result =
      (cs.apply value (before ++ after)).result := by
  have hspec : (cs.applySpec value spec).result = .ok none :=
    result_applySpec_iff.mpr ⟨he, (mark_eq_none_iff.mpr hm).symm⟩
  rw [result_apply, result_apply, List.mapM_append, List.mapM_append, List.mapM_cons, hspec]
  cases before.mapM fun spec => (cs.applySpec value spec).result with
  | error e => rfl
  | ok marks =>
    cases after.mapM fun spec => (cs.applySpec value spec).result with
    | error e => rfl
    | ok rest =>
      change Except.ok (combine ((marks ++ none :: rest).filterMap id)) =
        Except.ok (combine ((marks ++ rest).filterMap id))
      rw [List.filterMap_append, List.filterMap_append, List.filterMap_cons_none rfl]

/-- **An undefined name ends a run**, if there are no candidates too, unless the field of an
earlier spec did. -/
theorem result_apply_of_undefined {before after : List ConditionSpec}
    (hbefore : ∀ s ∈ before, Entries.contains s.name cs.entries = true)
    (hspec : Entries.contains spec.name cs.entries = false) :
    ((∀ s ∈ before, Evaluates cs value s) ∧
      (cs.apply value (before ++ spec :: after)).result =
        .error (.condition (.unknown spec.name))) ∨
    ∃ s ∈ before, ∃ failure, Fails cs value s (.notArray failure) ∧
      (cs.apply value (before ++ spec :: after)).result = .error (.notArray failure) := by
  cases h : (cs.apply value before).result with
  | ok o =>
    obtain ⟨heval, -⟩ := result_apply_iff.mp h
    exact .inl ⟨heval, result_apply_eq_error.mpr ⟨before, spec, after, rfl, heval, .unknown hspec⟩⟩
  | error e =>
    obtain ⟨front, s, back, rfl, heval, hfails⟩ := result_apply_eq_error.mp h
    have hs : s ∈ front ++ s :: back := by simp
    have hrun : (cs.apply value ((front ++ s :: back) ++ spec :: after)).result = .error e :=
      result_apply_eq_error.mpr ⟨front, s, back ++ spec :: after, by simp, heval, hfails⟩
    cases hfails with
    | unknown hd =>
      rw [hbefore s hs] at hd
      cases hd
    | field hd hc hread hf hr => exact .inr ⟨s, hs, _, .field hd hc hread hf hr, hrun⟩

/-- An empty array has no candidate in which a field could fail. -/
theorem evaluates_arr_nil (hd : Entries.contains spec.name cs.entries = true) :
    Evaluates cs (.arr []) spec := by
  refine ⟨hd, fun c hc => ?_⟩
  cases hc

/-- **A run accumulates one filter for each spec.**  It succeeds exactly if every spec can be
evaluated, with what the contributions of the specs collapse to, and there is no value exactly
if no spec matches anything.  A spec that matches nothing can be deleted, and no specs or no
candidates give no value.  A run that fails does so with the first spec that cannot be
evaluated. -/
theorem apply_accumulates (cs : ConditionSet) (value : Json) (specs : List ConditionSpec) :
    (∀ o, (cs.apply value specs).result = .ok o ↔
      (∀ spec ∈ specs, Evaluates cs value spec) ∧
        ∃ vs, Contributes cs value specs vs ∧ Collapses vs o) ∧
    ((∀ spec ∈ specs, Evaluates cs value spec) →
      ∃ o, (cs.apply value specs).result = .ok o ∧
        (o = none ↔ ∀ spec ∈ specs, cs.matching spec value = [])) ∧
    (∀ before spec after, specs = before ++ spec :: after → Evaluates cs value spec →
      cs.matching spec value = [] →
      (cs.apply value specs).result = (cs.apply value (before ++ after)).result) ∧
    (cs.apply value []).result = .ok none ∧
    ((∀ spec ∈ specs, Entries.contains spec.name cs.entries = true) →
      (cs.apply (.arr []) specs).result = .ok none) ∧
    (∀ e, (cs.apply value specs).result = .error e ↔
      ∃ before spec after, specs = before ++ spec :: after ∧
        (∀ s ∈ before, Evaluates cs value s) ∧ Fails cs value spec e) ∧
    (∀ before spec after, specs = before ++ spec :: after →
      (∀ s ∈ before, Entries.contains s.name cs.entries = true) →
      Entries.contains spec.name cs.entries = false →
      ((∀ s ∈ before, Evaluates cs value s) ∧
        (cs.apply value specs).result = .error (.condition (.unknown spec.name))) ∨
      ∃ s ∈ before, ∃ failure, Fails cs value s (.notArray failure) ∧
        (cs.apply value specs).result = .error (.notArray failure)) := by
  refine ⟨fun o => ?_, fun heval => ?_, ?_, rfl, fun hd => ?_, fun e => result_apply_eq_error, ?_⟩
  · rw [result_apply_iff]
    constructor
    · rintro ⟨heval, ho⟩
      exact ⟨heval, _, contributes_iff.mpr rfl, collapses_iff.mpr ho⟩
    · rintro ⟨heval, vs, hvs, ho⟩
      rw [contributes_iff.mp hvs] at ho
      exact ⟨heval, collapses_iff.mp ho⟩
  · refine ⟨_, result_apply_iff.mpr ⟨heval, rfl⟩, ?_⟩
    rw [combine_eq_none_iff, List.filterMap_eq_nil_iff]
    simp only [mark_eq_none_iff]
  · rintro before spec after rfl he hm
    exact result_apply_delete he hm
  · refine result_apply_iff.mpr ⟨fun spec hs => evaluates_arr_nil (hd spec hs), ?_⟩
    have hnone : specs.filterMap (cs.mark (.arr [])) = [] :=
      List.filterMap_eq_nil_iff.mpr fun spec _ => mark_eq_none_iff.mpr rfl
    rw [hnone]
    rfl
  · rintro before spec after rfl hbefore hspec
    exact result_apply_of_undefined hbefore hspec

/-- A condition that lamps can meet. -/
def lampSet : ConditionSet := ⟨[("lit", fun v => v.equal (.str "on"))]⟩

/-- Lamps, one of them without a state. -/
def lamps : Json :=
  .arr [.obj [("state", .str "on")], .obj [], .obj [("state", .str "on")]]

/-- The lamps that are lit are matched by their state; no lamp is itself the text of it. -/
def lampSpecs : List ConditionSpec :=
  [⟨"lit", some (.ofString "state"), none⟩, ⟨"lit", none, some (.str "text")⟩]

theorem lamps_accumulate :
    (∀ spec ∈ lampSpecs, Evaluates lampSet lamps spec) ∧
    (lampSet.apply lamps lampSpecs).result =
      .ok (some (.arr [.obj [("state", .str "on")], .obj [("state", .str "on")]])) ∧
    (lampSet.apply (.arr []) [⟨"dark", none, none⟩]).result =
      .error (.condition (.unknown "dark")) := by
  have hstate : Evaluates lampSet lamps ⟨"lit", some (.ofString "state"), none⟩ := by
    refine ⟨rfl, ?_⟩
    rintro c hc path ⟨⟩
    simp only [lamps, Json.candidates, List.mem_cons, List.not_mem_nil, or_false] at hc
    obtain rfl | rfl | rfl := hc
    · exact ⟨some (.str "on"), rfl⟩
    · exact ⟨none, rfl⟩
    · exact ⟨some (.str "on"), rfl⟩
  have hself : Evaluates lampSet lamps ⟨"lit", none, some (.str "text")⟩ := by
    refine ⟨rfl, ?_⟩
    rintro c hc path ⟨⟩
  have heval : ∀ spec ∈ lampSpecs, Evaluates lampSet lamps spec := by
    rintro spec (_ | ⟨_, _ | ⟨_, ⟨⟩⟩⟩)
    · exact hstate
    · exact hself
  refine ⟨heval, ?_, ?_⟩
  · exact ((apply_accumulates lampSet lamps lampSpecs).1 _).mpr
      ⟨heval, _, .sequence (by decide) rfl rfl (.skip rfl .nil), .one _⟩
  · obtain ⟨-, -, -, -, -, herror, -⟩ :=
      apply_accumulates lampSet (.arr []) [⟨"dark", none, none⟩]
    exact (herror _).mpr ⟨[], _, [], rfl, by simp, .unknown rfl⟩

end Reshape.ConditionSet
