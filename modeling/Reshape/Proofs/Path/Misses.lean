/-
# What is told of a path that leads to nothing

A path leads to nothing where a segment takes nothing, or null, from what the segments before it
lead to (`LostAt`), or from the value null itself; then it is told once that an array has no such
item, and once that there is nothing to go on from if a segment stands behind.  A segment that
takes something says nothing, so there are no warnings along a path that leads somewhere
(`resolveFrom_found`).

The last segment of a path has none behind it: what is missing under it, or null, is not told
unless it is the item of an array (`MissesSilently`).

Main statement: `resolve_reports`.
-/
import Reshape.Proofs.Path.Composition

namespace Reshape.Path

open Reporting

variable {whole before front rest : List String} {segment : String} {c : Option Json}
  {t u v w : Json}

/-! ## 1. Segments that take something -/

theorem step_of_child (h : child? segment v = some w) : step whole segment v = pure (some w) := by
  cases v with
  | arr items =>
    have hitem : (index? segment).bind (items[·]?) = some w := h
    rw [step, hitem]
  | obj entries => exact congrArg pure h
  | _ => cases h

/-- **Nothing is told of segments that lead somewhere.** -/
theorem resolveFrom_found (hf : wildcard ∉ front) (hv : follow front c = some v) :
    resolveFrom whole before (front ++ rest) c =
      resolveFrom whole (before ++ front) rest (some v) := by
  induction front generalizing before c with
  | nil =>
    have hv' : present c = some v := hv
    rw [List.nil_append, List.append_nil, ← hv', resolveFrom_present]
  | cons segment front ih =>
    simp only [List.mem_cons, not_or] at hf
    have hw : segment ≠ wildcard := fun e => hf.1 e.symm
    cases hc : present c with
    | none =>
      rw [follow_absent hc] at hv
      cases hv
    | some u =>
      simp only [follow, hc] at hv
      rw [List.cons_append]
      by_cases he : segment = ""
      · subst he
        rw [if_pos rfl] at hv
        rw [resolveFrom_empty hc, ih hf.2 hv, List.append_assoc]
        rfl
      · rw [if_neg he] at hv
        cases hchild : child? segment u with
        | none =>
          rw [hchild, follow_absent present_none] at hv
          cases hv
        | some w =>
          rw [resolveFrom_segment hc hw he, step_of_child hchild, pure_bind, ← hchild,
            ih hf.2 hv, List.append_assoc]
          rfl

/-! ## 2. Where a path is lost -/

/-- A segment takes nothing, or null, from what the segments before it lead to. -/
structure LostAt (t : Json) (front : List String) (segment : String) (v : Json) : Prop where
  noStar : wildcard ∉ front
  leads : outcome ⟨front⟩ t = .ok (some v)
  isStep : segment ≠ "" ∧ segment ≠ wildcard
  takes : ∀ w, Child segment v w → w = .null

/-- A segment takes no item of an array. -/
def OutOfBounds (segment : String) (v : Json) : Prop :=
  (∃ items, v = .arr items) ∧ ∀ w, ¬Child segment v w

theorem present_child?_eq_none_iff :
    present (child? segment v) = none ↔ ∀ w, Child segment v w → w = .null := by
  simp only [← child?_eq_some_iff]
  constructor
  · intro h w hw
    by_contra hn
    rw [hw, present_some hn] at h
    cases h
  · intro h
    cases hc : child? segment v with
    | none => rfl
    | some w => rw [h w hc, present_null]

/-- A `*` leads to an array, if anywhere. -/
theorem result_resolveFrom_wildcard_ne (hc : present c = some v) :
    (resolveFrom whole before (wildcard :: rest) c).result ≠ .ok none := by
  intro h
  by_cases hv : ∃ xs, v = .arr xs
  · obtain ⟨xs, rfl⟩ := hv
    rw [← resolveFrom_present, hc, result_resolveFrom_wildcard, Result.map_eq_ok] at h
    obtain ⟨found, -, hfound⟩ := h
    cases hfound
  · rw [result_resolveFrom_wildcard_error hc fun xs e => hv ⟨xs, e⟩] at h
    cases h

/-- By induction on the segments, up to the one that takes nothing. -/
theorem exists_lost {segments : List String} (hc : present c = some v)
    (h : (resolveFrom whole before segments c).result = .ok none) :
    ∃ front segment rest u, segments = front ++ segment :: rest ∧ wildcard ∉ front ∧
      follow front c = some u ∧ (segment ≠ "" ∧ segment ≠ wildcard) ∧
      present (child? segment u) = none := by
  induction segments generalizing before c v with
  | nil =>
    rw [resolveFrom, result_pure, hc] at h
    cases h
  | cons segment rest ih =>
    by_cases hw : segment = wildcard
    · subst hw
      exact absurd h (result_resolveFrom_wildcard_ne hc)
    by_cases he : segment = ""
    · subst he
      rw [result_resolveFrom_empty hc] at h
      have hv : present (some v) = some v := present_some (present_eq_some_iff.mp hc).2
      obtain ⟨front, last, tail, u, rfl, hf, hu, hl⟩ := ih hv h
      refine ⟨"" :: front, last, tail, u, rfl, by simpa using ⟨by decide, hf⟩, ?_, hl⟩
      simpa [follow, hc] using hu
    · rw [result_resolveFrom_segment hc hw he] at h
      cases hchild : present (child? segment v) with
      | none =>
        exact ⟨[], segment, rest, v, rfl, by simp, hc, ⟨he, hw⟩, hchild⟩
      | some w =>
        obtain ⟨front, last, tail, u, rfl, hf, hu, hl⟩ := ih hchild h
        refine ⟨segment :: front, last, tail, u, rfl, ?_, ?_, hl⟩
        · simpa using ⟨fun e => hw e.symm, hf⟩
        · simpa [follow, hc, he] using hu

/-! ## 3. What is told -/

theorem warnings_bind_of_ok {x : Reporting Failure (Option Json)}
    {f : Option Json → Reporting Failure (Option Json)} {d : Option Json}
    (hx : x.result = .ok d) : (x >>= f).warnings = x.warnings ++ (f d).warnings := by
  rw [bind_of_ok hx]
  exact List.filterMap_append

theorem warnings_step_of_outOfBounds (h : OutOfBounds segment v) :
    (step whole segment v).warnings = [outOfBounds segment whole] := by
  obtain ⟨⟨items, rfl⟩, hnone⟩ := h
  have hitem : (index? segment).bind (items[·]?) = none :=
    Option.eq_none_iff_forall_ne_some.mpr fun w hw => hnone w (child?_eq_some_iff.mp hw)
  rw [step, hitem]
  rfl

theorem warnings_step_of_not (h : ¬OutOfBounds segment v) :
    (step whole segment v).warnings = [] := by
  cases hc : child? segment v with
  | some w => rw [step_of_child hc]; rfl
  | none =>
    cases v with
    | arr items =>
      refine absurd ⟨⟨items, rfl⟩, fun w hw => ?_⟩ h
      rw [child?_eq_some_iff.mpr hw] at hc
      cases hc
    | _ => rfl

theorem warnings_absent (hc : present c = none) :
    (resolveFrom whole before rest c).warnings = if rest = [] then [] else [notFound whole] := by
  cases rest with
  | nil => rw [resolveFrom]; rfl
  | cons segment rest => rw [resolveFrom, hc]; rfl

/-- What is told where a path is lost. -/
theorem warnings_of_lostAt (h : LostAt t front segment v)
    (hp : whole = front ++ segment :: rest) :
    (resolve ⟨whole⟩ t).warnings =
      (step whole segment v).warnings ++ if rest = [] then [] else [notFound whole] := by
  have hv : follow front (some t) = some v :=
    Except.ok.inj ((outcome_eq_follow h.noStar t).symm.trans h.leads)
  have hpresent : present (some v) = some v := by rw [← hv, present_follow]
  have htakes : present (child? segment v) = none := present_child?_eq_none_iff.mpr h.takes
  have hresolve : resolve ⟨whole⟩ t =
      step whole segment v >>= resolveFrom whole (front ++ [segment]) rest := by
    rw [resolve, hp, resolveFrom_found h.noStar hv,
      resolveFrom_segment hpresent h.isStep.2 h.isStep.1, List.nil_append]
  rw [hresolve, warnings_bind_of_ok (result_step whole segment v), warnings_absent htakes]

/-- A path misses its last segment without a word: it has led to something, from which the last
segment takes nothing, or null, and not for want of an item of an array. -/
def MissesSilently (t : Json) (p : Path) : Prop :=
  ∃ front segment v, p.segments = front ++ [segment] ∧ LostAt t front segment v ∧
    ¬OutOfBounds segment v

/-- A path that leads to nothing from a value that is there is lost at one of its segments. -/
theorem exists_lostAt {p : Path} (ht : t ≠ .null) (h : p.outcome t = .ok none) :
    ∃ front segment rest v, p.segments = front ++ segment :: rest ∧ LostAt t front segment v := by
  obtain ⟨front, segment, rest, v, hp, hf, hv, hs, hnone⟩ := exists_lost (present_some ht) h
  refine ⟨front, segment, rest, v, hp, hf, ?_, hs, present_child?_eq_none_iff.mp hnone⟩
  rw [outcome_eq_follow hf, hv]

theorem warnings_null {s : String} :
    ((ofString s).resolve .null).warnings = [notFound (ofString s).segments] := by
  have hne : (ofString s).segments ≠ [] := Text.split_ne_nil s
  rw [resolve, warnings_absent present_null, if_neg hne]

/-- A path misses silently exactly if nothing is told. -/
theorem warnings_eq_nil_iff {s : String} (h : (ofString s).outcome t = .ok none) :
    ((ofString s).resolve t).warnings = [] ↔ MissesSilently t (ofString s) := by
  constructor
  · intro hw
    have ht : t ≠ .null := by
      rintro rfl
      rw [warnings_null] at hw
      cases hw
    obtain ⟨front, segment, rest, v, hp, hlost⟩ := exists_lostAt ht h
    have htold := (warnings_of_lostAt hlost hp).symm.trans hw
    obtain ⟨hstep, hrest⟩ := List.append_eq_nil_iff.mp htold
    have hrest' : rest = [] := by
      by_contra hne
      rw [if_neg hne] at hrest
      cases hrest
    subst hrest'
    refine ⟨front, segment, v, hp, hlost, fun hout => ?_⟩
    rw [warnings_step_of_outOfBounds hout] at hstep
    cases hstep
  · rintro ⟨front, segment, v, hp, hlost, hin⟩
    have htold := warnings_of_lostAt hlost hp
    rwa [warnings_step_of_not hin, if_pos rfl] at htold

/-- Every warning about a path that leads to nothing names the whole path. -/
theorem eq_of_mem_warnings {s text : String} (h : (ofString s).outcome t = .ok none)
    (hw : text ∈ ((ofString s).resolve t).warnings) :
    text = notFound (ofString s).segments ∨
      ∃ segment ∈ (ofString s).segments, text = outOfBounds segment (ofString s).segments := by
  by_cases ht : t = .null
  · subst ht
    rw [warnings_null] at hw
    exact .inl (List.mem_singleton.mp hw)
  obtain ⟨front, segment, rest, v, hp, hlost⟩ := exists_lostAt ht h
  have htold : ((ofString s).resolve t).warnings = _ := warnings_of_lostAt hlost hp
  rw [htold] at hw
  rcases List.mem_append.mp hw with hw | hw
  · by_cases hout : OutOfBounds segment v
    · rw [warnings_step_of_outOfBounds hout, List.mem_singleton] at hw
      exact .inr ⟨segment, by rw [hp]; simp, hw⟩
    · rw [warnings_step_of_not hout] at hw
      cases hw
  · split at hw
    · cases hw
    · exact .inl (List.mem_singleton.mp hw)

/-- **What resolution tells.**  A path that leads to nothing is told of, in warnings that name the
whole of it, unless what is missing is missing under its last segment and is no item of an array.
A path without a `*` that leads somewhere is not told of. -/
theorem resolve_reports (t : Json) (s : String) :
    ((ofString s).outcome t = .ok none →
      (((ofString s).resolve t).warnings ≠ [] ↔ ¬MissesSilently t (ofString s)) ∧
      ∀ text ∈ ((ofString s).resolve t).warnings, text = notFound (ofString s).segments ∨
        ∃ segment ∈ (ofString s).segments, text = outOfBounds segment (ofString s).segments) ∧
    (wildcard ∉ (ofString s).segments → ∀ v, (ofString s).outcome t = .ok (some v) →
      ((ofString s).resolve t).warnings = []) := by
  refine ⟨fun h => ⟨not_congr (warnings_eq_nil_iff h), fun text => eq_of_mem_warnings h⟩, ?_⟩
  intro hp v hv
  have hfound : follow (ofString s).segments (some t) = some v :=
    Except.ok.inj ((outcome_eq_follow hp t).symm.trans hv)
  have hquiet : (ofString s).resolve t =
      resolveFrom (ofString s).segments ([] ++ (ofString s).segments) [] (some v) := by
    rw [← resolveFrom_found hp hfound, List.append_nil]
    rfl
  rw [hquiet, resolveFrom]
  rfl

/-- A short list. -/
def readings : Json := .obj [("list", .arr [.int 1]), ("unit", .null)]

/-- An item that is missing is told of, also under the last segment, and so is a key that is missing
in the middle of a path; an item that is there is not. -/
theorem resolve_readings_reports :
    (ofString "list/5").outcome readings = .ok none ∧
    ¬MissesSilently readings (ofString "list/5") ∧
    ((ofString "list/5").resolve readings).warnings ≠ [] ∧
    (ofString "size/0").outcome readings = .ok none ∧
    (∀ text ∈ ((ofString "size/0").resolve readings).warnings,
      text = notFound ["size", "0"] ∨
        ∃ segment ∈ ["size", "0"], text = outOfBounds segment ["size", "0"]) ∧
    wildcard ∉ (ofString "list/0").segments ∧
    (ofString "list/0").outcome readings = .ok (some (.int 1)) ∧
    ((ofString "list/0").resolve readings).warnings = [] := by
  have hnot : ¬MissesSilently readings (ofString "list/5") := by
    rintro ⟨front, segment, v, hp, hlost, hin⟩
    have hp' : ["list"] ++ ["5"] = front ++ [segment] := hp
    obtain ⟨rfl, hsegment⟩ := List.append_inj' hp' rfl
    cases hsegment
    cases hlost.leads
    refine hin ⟨⟨_, rfl⟩, fun w hw => ?_⟩
    cases child?_eq_some_iff.mpr hw
  have hstar : wildcard ∉ (ofString "list/0").segments := by decide
  exact ⟨rfl, hnot, ((resolve_reports readings "list/5").1 rfl).1.mpr hnot, rfl,
    ((resolve_reports readings "size/0").1 rfl).2, hstar, rfl,
    (resolve_reports readings "list/0").2 hstar _ rfl⟩

/-- What is missing, or null, under the last segment of a path is not told of. -/
theorem resolve_readings_silent :
    (ofString "size").outcome readings = .ok none ∧
    ((ofString "size").resolve readings).warnings = [] ∧
    (ofString "unit").outcome readings = .ok none ∧
    ((ofString "unit").resolve readings).warnings = [] :=
  ⟨rfl, rfl, rfl, rfl⟩

end Reshape.Path
