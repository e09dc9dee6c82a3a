/-
# What resolution comes to

The result of resolving a path, warnings aside.  Resolution goes from segment to segment, so
everything here is about lists of segments and what has been reached.

* Along segments without a `*` it is a plain walk, `follow`, which never fails.  A path may
  therefore be cut behind any segments without a `*` (`result_resolveFrom_append`).
* At a `*` it is the resolution of the remaining segments, as a path of its own, from every
  item of an array (`result_resolveFrom_wildcard`).
* Where a failure is told depends on the whole path only if the failing `*` is the first one
  of it (`result_resolveFrom_front`): behind a `*` a shorter path is resolved, and that is the
  one that a failure names (`failsWithin`).
-/
import Reshape.Path
import Reshape.Proofs.Sequence

namespace Reshape.Path

open Reporting

/-- What resolving a path comes to. -/
def outcome (p : Path) (t : Json) : Except Failure (Option Json) := (p.resolve t).result

/-! ## 1. Presence -/

theorem isNull_eq_false {v : Json} (h : v ≠ .null) : v.isNull = false := by
  rw [← Bool.not_eq_true, Json.isNull_iff]
  exact h

@[simp] theorem present_none : present none = none := rfl

@[simp] theorem present_null : present (some .null) = none := rfl

theorem present_eq_some_iff {c : Option Json} {v : Json} :
    present c = some v ↔ c = some v ∧ v ≠ .null := by
  cases c with
  | none => simp
  | some w =>
    by_cases hw : w = .null
    · subst hw
      simp only [present_null, Option.some.injEq, false_iff, not_and, reduceCtorEq]
      intro h
      exact fun hv => hv h.symm
    · have hn : w.isNull = false := isNull_eq_false hw
      simp only [present, hn, Bool.false_eq_true, if_false, Option.some.injEq]
      constructor
      · rintro rfl
        exact ⟨rfl, hw⟩
      · exact fun h => h.1

theorem present_some {v : Json} (h : v ≠ .null) : present (some v) = some v :=
  present_eq_some_iff.mpr ⟨rfl, h⟩

@[simp] theorem present_present (c : Option Json) : present (present c) = present c := by
  cases hc : present c with
  | none => rfl
  | some v => exact present_some (present_eq_some_iff.mp hc).2

/-! ## 2. One segment -/

/-- What a segment that is neither empty nor a `*` takes from a value. -/
def child? (segment : String) : Json → Option Json
  | .arr items => (index? segment).bind (items[·]?)
  | .obj entries => Entries.get? segment entries
  | _ => none

theorem result_step (whole : List String) (segment : String) (v : Json) :
    (step whole segment v).result = .ok (child? segment v) := by
  cases v with
  | arr items =>
    simp only [step, child?]
    split
    · next w hw => rw [hw]; rfl
    · next hw => rw [hw]; rfl
  | _ => rfl

variable {whole before rest : List String} {segment : String} {c : Option Json} {v : Json}

/-- Only what is present counts. -/
theorem resolveFrom_present :
    resolveFrom whole before rest (present c) = resolveFrom whole before rest c := by
  cases rest <;> simp only [resolveFrom, present_present]

theorem result_resolveFrom_absent (h : present c = none) :
    (resolveFrom whole before rest c).result = .ok none := by
  cases rest with
  | nil => simp [resolveFrom, h]
  | cons s rest => simp [resolveFrom, h]; rfl

theorem resolveFrom_empty (h : present c = some v) :
    resolveFrom whole before ("" :: rest) c =
      resolveFrom whole (before ++ [""]) rest (some v) := by
  have hw : "" ≠ wildcard := by decide
  simp only [resolveFrom, h, hw, if_false, if_true]

theorem resolveFrom_segment (h : present c = some v) (hw : segment ≠ wildcard)
    (he : segment ≠ "") :
    resolveFrom whole before (segment :: rest) c =
      step whole segment v >>= resolveFrom whole (before ++ [segment]) rest := by
  simp only [resolveFrom, h, hw, he, if_false]

theorem result_resolveFrom_empty (h : present c = some v) :
    (resolveFrom whole before ("" :: rest) c).result =
      (resolveFrom whole (before ++ [""]) rest (some v)).result := by
  rw [resolveFrom_empty h]

theorem result_resolveFrom_segment (h : present c = some v) (hw : segment ≠ wildcard)
    (he : segment ≠ "") :
    (resolveFrom whole before (segment :: rest) c).result =
      (resolveFrom whole (before ++ [segment]) rest (child? segment v)).result := by
  rw [resolveFrom_segment h hw he]
  exact result_bind_of_ok (result_step whole segment v) _

/-! ## 3. Segments without a `*` -/

/-- Where segments without a `*` lead to. -/
def follow : List String → Option Json → Option Json
  | [], c => present c
  | segment :: rest, c =>
    match present c with
    | none => none
    | some v => follow rest (if segment = "" then some v else child? segment v)

theorem follow_absent {segments : List String} (h : present c = none) :
    follow segments c = none := by
  cases segments <;> simp [follow, h]

@[simp] theorem present_follow (segments : List String) (c : Option Json) :
    present (follow segments c) = follow segments c := by
  induction segments generalizing c with
  | nil => exact present_present c
  | cons segment rest ih =>
    cases hc : present c with
    | none => rw [follow_absent hc]; rfl
    | some v => simp only [follow, hc, ih]

/-- **A path may be cut behind segments without a `*`**: following them and going on from
where they lead to. -/
theorem result_resolveFrom_append {front : List String} (hf : wildcard ∉ front) :
    (resolveFrom whole before (front ++ rest) c).result =
      (resolveFrom whole (before ++ front) rest (follow front c)).result := by
  induction front generalizing before c with
  | nil => simp only [List.nil_append, List.append_nil, follow, resolveFrom_present]
  | cons segment front ih =>
    simp only [List.mem_cons, not_or] at hf
    have hw : segment ≠ wildcard := fun e => hf.1 e.symm
    cases hc : present c with
    | none =>
      rw [result_resolveFrom_absent hc, follow_absent hc, result_resolveFrom_absent present_none]
    | some v =>
      simp only [follow, hc, List.cons_append]
      by_cases he : segment = ""
      · subst he
        rw [result_resolveFrom_empty hc, ih hf.2, List.append_assoc]
        simp
      · rw [result_resolveFrom_segment hc hw he, ih hf.2, List.append_assoc]
        simp [he]

/-- Segments without a `*` never fail. -/
theorem result_resolveFrom_of_not_mem {front : List String} (hf : wildcard ∉ front) :
    (resolveFrom whole before front c).result = .ok (follow front c) := by
  have h : (resolveFrom whole before (front ++ []) c).result =
      (resolveFrom whole (before ++ front) [] (follow front c)).result :=
    result_resolveFrom_append hf
  rw [List.append_nil] at h
  rw [h, resolveFrom, result_pure, present_follow]

theorem outcome_eq_follow {front : List String} (hf : wildcard ∉ front) (t : Json) :
    outcome ⟨front⟩ t = .ok (follow front (some t)) :=
  result_resolveFrom_of_not_mem hf

/-! ## 4. The `*` -/

/-- The path of segments behind a `*`; without any it is the empty path. -/
def behind : List String → Path
  | [] => ⟨[""]⟩
  | segment :: rest => ⟨segment :: rest⟩

theorem itself_eq_resolve (v : Json) : itself v = resolve ⟨[""]⟩ v := by
  have hw : "" ≠ wildcard := by decide
  by_cases hv : v = .null
  · subst hv; rfl
  · have hn : v.isNull = false := isNull_eq_false hv
    simp [itself, hn, resolve, resolveFrom, present_some hv, hw]

/-- At a `*` the rest is resolved from every item, as a path of its own. -/
theorem result_resolveFrom_wildcard {items : List Json} :
    (resolveFrom whole before (wildcard :: rest) (some (.arr items))).result =
      ((items.mapM ((behind rest).outcome ·)).map fun found =>
        some (.arr (found.map fun f => f.getD .null))) := by
  have hp : present (some (.arr items)) = some (.arr items) := rfl
  have hr : ∀ item, (if rest.isEmpty then itself item else resolveFrom rest [] rest (some item)) =
      (behind rest).resolve item := by
    intro item
    cases rest with
    | nil => exact itself_eq_resolve item
    | cons next others => rfl
  simp only [resolveFrom, hp, if_true, hr, result_bind, result_mapM]
  rfl

/-- A `*` that meets no array fails. -/
theorem result_resolveFrom_wildcard_error (h : present c = some v) (hv : ∀ xs, v ≠ .arr xs) :
    (resolveFrom whole before (wildcard :: rest) c).result = .error ⟨before, ⟨whole⟩⟩ := by
  simp only [resolveFrom, h, if_true]
  cases v with
  | arr xs => exact absurd rfl (hv xs)
  | _ => rfl

/-! ## 5. Where a failure is told -/

/-- What is to be shown of the failures along segments: they name the path that is resolved,
or a shorter one. -/
def FailsWithin (rest : List String) : Prop :=
  ∀ (whole before : List String) (c : Option Json) (f : Failure),
    (resolveFrom whole before rest c).result = .error f →
      f.path = ⟨whole⟩ ∨ f.path.segments.length < rest.length

/-- Behind a `*` only the remaining segments count. -/
theorem FailsWithin.behind (h : FailsWithin rest) {x : Json} {f : Failure}
    (hx : (Path.behind rest).outcome x = .error f) : f.path.segments.length ≤ rest.length := by
  cases rest with
  | nil =>
    have hok : (resolveFrom [""] [] [""] (some x)).result = .ok _ :=
      result_resolveFrom_of_not_mem (by decide)
    rw [Path.behind, outcome, resolve, hok] at hx
    cases hx
  | cons next others =>
    rcases h _ _ _ f hx with he | hl
    · rw [he]; exact Nat.le_refl _
    · exact Nat.le_of_lt hl

/-- A failure names the path that was resolved, or a shorter one behind one of its stars. -/
theorem failsWithin (rest : List String) : FailsWithin rest := by
  induction rest with
  | nil =>
    intro whole before c f h
    cases h
  | cons segment rest ih =>
    intro whole before c f h
    have hlt : rest.length < (segment :: rest).length := by simp
    have hgo : ∀ {c' before'}, (resolveFrom whole before' rest c').result = .error f →
        f.path = ⟨whole⟩ ∨ f.path.segments.length < (segment :: rest).length := by
      intro c' before' h'
      rcases ih _ _ _ f h' with he | hl
      · exact Or.inl he
      · exact Or.inr (Nat.lt_trans hl hlt)
    cases hc : present c with
    | none => rw [result_resolveFrom_absent hc] at h; cases h
    | some v =>
      by_cases hw : segment = wildcard
      · subst hw
        by_cases hv : ∃ xs, v = .arr xs
        · -- the failure is that of the rest on the first item on which it fails
          obtain ⟨xs, rfl⟩ := hv
          rw [← resolveFrom_present, hc, result_resolveFrom_wildcard] at h
          obtain ⟨-, x, -, -, -, hx⟩ := Result.mapM_eq_error.mp (Result.map_eq_error.mp h)
          exact Or.inr (Nat.lt_of_le_of_lt (ih.behind hx) hlt)
        · have hv' : ∀ xs, v ≠ .arr xs := fun xs e => hv ⟨xs, e⟩
          rw [result_resolveFrom_wildcard_error hc hv'] at h
          cases h
          exact Or.inl rfl
      · by_cases he : segment = ""
        · subst he
          rw [result_resolveFrom_empty hc] at h
          exact hgo h
        · rw [result_resolveFrom_segment hc hw he] at h
          exact hgo h

/-- A failure of the path `q`, told of the path that has the segments `front` before it.  A
failure behind a `*` of `q` names a path of its own and stays. -/
def Failure.after (front : List String) (q : Path) (f : Failure) : Failure :=
  if f.path = q then ⟨front ++ f.before, ⟨front ++ q.segments⟩⟩ else f

/-- A failure behind a `*` is told in the same words whatever stands in front. -/
theorem Failure.after_behind {front segments : List String} {x : Json} {f : Failure}
    (hx : (Path.behind rest).outcome x = .error f) (hs : rest.length < segments.length) :
    f.after front ⟨segments⟩ = f := by
  have hle : f.path.segments.length ≤ rest.length := (failsWithin rest).behind hx
  have hne : f.path ≠ ⟨segments⟩ := by
    intro he
    rw [he] at hle
    exact absurd hs (Nat.not_lt.mpr hle)
  rw [Failure.after, if_neg hne]

/-- **Segments in front of a path change nothing** but the account of the failures of its own
stars. -/
theorem result_resolveFrom_front (front : List String) {segments : List String}
    (hs : segments = before ++ rest) :
    (resolveFrom (front ++ segments) (front ++ before) rest c).result =
      (resolveFrom segments before rest c).result.mapError (Failure.after front ⟨segments⟩) := by
  induction rest generalizing before c with
  | nil => rfl
  | cons segment rest ih =>
    have hs' : segments = (before ++ [segment]) ++ rest := by rw [hs]; simp
    cases hc : present c with
    | none => rw [result_resolveFrom_absent hc, result_resolveFrom_absent hc]; rfl
    | some v =>
      by_cases hw : segment = wildcard
      · subst hw
        by_cases hv : ∃ xs, v = .arr xs
        · obtain ⟨xs, rfl⟩ := hv
          have hlt : rest.length < segments.length := by rw [hs]; simp; omega
          rw [← resolveFrom_present, ← resolveFrom_present (c := c), hc,
            result_resolveFrom_wildcard, result_resolveFrom_wildcard]
          cases hm : xs.mapM ((Path.behind rest).outcome ·) with
          | ok found => rfl
          | error f =>
            obtain ⟨-, x, -, -, -, hx⟩ := Result.mapM_eq_error.mp hm
            change Except.error f = Except.error (f.after front ⟨segments⟩)
            rw [Failure.after_behind hx hlt]
        · have hv' : ∀ xs, v ≠ .arr xs := fun xs e => hv ⟨xs, e⟩
          rw [result_resolveFrom_wildcard_error hc hv', result_resolveFrom_wildcard_error hc hv']
          simp [Except.mapError, Failure.after]
      · by_cases he : segment = ""
        · subst he
          rw [result_resolveFrom_empty hc, result_resolveFrom_empty hc, List.append_assoc]
          exact ih hs'
        · rw [result_resolveFrom_segment hc hw he, result_resolveFrom_segment hc hw he,
            List.append_assoc]
          exact ih hs'

end Reshape.Path
