/-
# Paths into related values

Following a path asks little of a value: whether it is null, what stands at a place of an array and
what stands under a key of anything else, null counting as nothing.  A relation of values under
which these questions have related answers (`Tracks`) is kept by resolution: from related values a
path leads to related values, or fails in the same way, after the same warnings
(`Tracks.echoes_resolve`).

A relation that keeps the kinds of values and relates what reads under each key (`Follows`) is such
a relation; equality of values is one (`follows_same`).
-/
import Reshape.Path
import Reshape.Proofs.Echo
import Reshape.Proofs.Json.Equality

namespace Reshape

open Reporting

/-- Two values are of one kind; their items, or what reads under each key, are in a relation. -/
inductive Json.SameShape (R : Json → Json → Prop) : Json → Json → Prop
  | null : SameShape R .null .null
  | bool (a b : Bool) : SameShape R (.bool a) (.bool b)
  | int (m n : Int) : SameShape R (.int m) (.int n)
  | float (x y : Binary64) : SameShape R (.float x) (.float y)
  | str (s t : String) : SameShape R (.str s) (.str t)
  | arr {items items' : List Json} (h : List.Forall₂ R items items') :
      SameShape R (.arr items) (.arr items')
  | obj {es fs : Entries Json}
      (h : ∀ key, Option.Rel R (Entries.get? key es) (Entries.get? key fs)) :
      SameShape R (.obj es) (.obj fs)

namespace Path

/-- Two values are arrays with related items, or no arrays; then what is present under each key is
related. -/
inductive SameAccess (R : Json → Json → Prop) : Json → Json → Prop
  | items {items items' : List Json} (h : List.Forall₂ R items items') :
      SameAccess R (.arr items) (.arr items')
  | entries {v w : Json} (hv : ∀ xs, v ≠ .arr xs) (hw : ∀ xs, w ≠ .arr xs)
      (h : ∀ key, Option.Rel R (present (v.get? key)) (present (w.get? key))) : SameAccess R v w

/-- A relation of values that paths cannot tell apart. -/
structure Tracks (R : Json → Json → Prop) : Prop where
  isNull {v w : Json} (h : R v w) : v.isNull = w.isNull
  access {v w : Json} (h : R v w) : SameAccess R v w
  null : R .null .null
  arr {items items' : List Json} (h : List.Forall₂ R items items') : R (.arr items) (.arr items')

variable {R : Json → Json → Prop} {v w : Json} {whole before : List String}

/-! ## 1. Steps -/

theorem rel_present (hR : ∀ v w, R v w → v.isNull = w.isNull) {c d : Option Json}
    (h : Option.Rel R c d) : Option.Rel R (present c) (present d) := by
  cases h with
  | none => exact .none
  | some hvw =>
    rw [present, present, hR _ _ hvw]
    split
    · exact .none
    · exact .some hvw

theorem rel_getElem? {items items' : List Json} (h : List.Forall₂ R items items') (i : Nat) :
    Option.Rel R items[i]? items'[i]? := by
  induction h generalizing i with
  | nil => exact .none
  | cons hvw _ ih =>
    cases i with
    | zero => exact .some hvw
    | succ i => exact ih i

/-- Outside arrays a step is a look under a key. -/
theorem step_of_ne_arr (hv : ∀ xs, v ≠ .arr xs) (segment : String) :
    step whole segment v = pure (v.get? segment) := by
  cases v with
  | arr xs => exact absurd rfl (hv xs)
  | _ => rfl

namespace Tracks

theorem rel_present (hR : Tracks R) {c d : Option Json} (h : Option.Rel R c d) :
    Option.Rel R (present c) (present d) :=
  Path.rel_present (fun _ _ => hR.isNull) h

theorem echoes_itself (hR : Tracks R) (h : R v w) :
    Echoes (Option.Rel R) (itself v) (itself w) := by
  rw [itself, itself, hR.isNull h]
  split
  · exact ⟨.ok .none, rfl⟩
  · exact echoes_pure (.some h)

theorem echoes_step (hR : Tracks R) (segment : String) (h : R v w) :
    Echoes (fun c d => Option.Rel R (present c) (present d)) (step whole segment v)
      (step whole segment w) := by
  cases hR.access h with
  | @items items items' hs =>
    have hitem : Option.Rel R ((index? segment).bind (items[·]?))
        ((index? segment).bind (items'[·]?)) := by
      cases index? segment with
      | none => exact .none
      | some i => exact rel_getElem? hs i
    rw [step, step]
    generalize (index? segment).bind (items[·]?) = v? at hitem ⊢
    generalize (index? segment).bind (items'[·]?) = w? at hitem ⊢
    cases hitem with
    | none => exact ⟨.ok .none, rfl⟩
    | some hvw => exact echoes_pure (hR.rel_present (.some hvw))
  | entries hv hw hget =>
    rw [step_of_ne_arr hv, step_of_ne_arr hw]
    exact echoes_pure (hget segment)

/-! ## 2. Paths -/

theorem echoes_resolveFrom (hR : Tracks R) (rest : List String) {c d : Option Json}
    (h : Option.Rel R (present c) (present d)) :
    Echoes (Option.Rel R) (resolveFrom whole before rest c) (resolveFrom whole before rest d) := by
  induction rest generalizing whole before c d with
  | nil => exact echoes_pure h
  | cons segment rest ih =>
    rw [resolveFrom, resolveFrom]
    generalize present c = v? at h ⊢
    generalize present d = w? at h ⊢
    cases h with
    | none => exact ⟨.ok .none, rfl⟩
    | @some v w hvw =>
      dsimp only
      by_cases hwild : segment = wildcard
      · rw [if_pos hwild, if_pos hwild]
        cases hR.access hvw with
        | @items items items' hs =>
          have hitems : List.Forall₂ (fun x y => Echoes (Option.Rel R)
              (if rest.isEmpty then itself x else resolveFrom rest [] rest (some x))
              (if rest.isEmpty then itself y else resolveFrom rest [] rest (some y)))
              items items' := by
            refine hs.imp fun x y hxy => ?_
            split
            · exact hR.echoes_itself hxy
            · exact ih (hR.rel_present (.some hxy))
          refine (echoes_mapM hitems).bind fun found found' hfound => ?_
          refine echoes_pure (.some (hR.arr ?_))
          rw [List.forall₂_map_left_iff, List.forall₂_map_right_iff]
          refine hfound.imp fun x? y? hxy => ?_
          cases hxy with
          | none => exact hR.null
          | some hxy => exact hxy
        | entries hv hw =>
          cases v with
          | arr xs => exact absurd rfl (hv xs)
          | _ =>
            cases w with
            | arr xs => exact absurd rfl (hw xs)
            | _ => exact echoes_throw _
      · rw [if_neg hwild, if_neg hwild]
        split
        · exact ih (hR.rel_present (.some hvw))
        · exact (hR.echoes_step segment hvw).bind fun x? y? hxy => ih hxy

/-- **From related values a path leads to related values**, or fails in the same way. -/
theorem echoes_resolve (hR : Tracks R) (p : Path) (h : R v w) :
    Echoes (Option.Rel R) (p.resolve v) (p.resolve w) :=
  hR.echoes_resolveFrom p.segments (hR.rel_present (.some h))

end Tracks

/-! ## 3. Values of one kind -/

/-- A relation of values of one kind, with related items and related values under each key. -/
structure Follows (R : Json → Json → Prop) : Prop where
  shape {v w : Json} (h : R v w) : v.SameShape R w
  null : R .null .null
  arr {items items' : List Json} (h : List.Forall₂ R items items') : R (.arr items) (.arr items')

namespace Follows

theorem isNull_eq (hR : Follows R) (h : R v w) : v.isNull = w.isNull := by
  cases hR.shape h <;> rfl

theorem tracks (hR : Follows R) : Tracks R where
  isNull := hR.isNull_eq
  access h := by
    cases hR.shape h with
    | arr hs => exact .items hs
    | obj hget =>
      exact .entries (by simp) (by simp)
        fun key => rel_present (fun _ _ => hR.isNull_eq) (hget key)
    | _ => exact .entries (by simp) (by simp) fun _ => .none
  null := hR.null
  arr := hR.arr

theorem echoes_resolve (hR : Follows R) (p : Path) (h : R v w) :
    Echoes (Option.Rel R) (p.resolve v) (p.resolve w) :=
  hR.tracks.echoes_resolve p h

end Follows

/-- Paths cannot tell apart values that are the same. -/
theorem follows_same : Follows Json.Same where
  shape h := by
    cases h.parts with
    | null => exact .null
    | bool b => exact .bool b b
    | int n => exact .int n n
    | float => exact .float _ _
    | str s => exact .str s s
    | arr hs => exact .arr hs
    | obj hget => exact .obj hget
  null := .refl .null
  arr := Json.same_arr

end Path

end Reshape
