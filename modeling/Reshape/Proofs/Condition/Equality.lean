/-
# Conditions that respect equality

A predicate respects equality if it does not tell apart values that are the same.  A set of such
predicates leaves of values that are the same what is the same (`Respects.echoes_apply`).

Of the classes that are always there all but `Matches` make such predicates: `Matches` reads the
text of a value, in which the order of entries shows.
-/
import Reshape.Condition.Builtin
import Reshape.Proofs.Path.Congruence

namespace Reshape

open Reporting

/-- A predicate does not tell apart values that are the same. -/
def Predicate.Respects (p : Predicate) : Prop := ∀ v w : Json, v.Same w → p v = p w

/-! ## 1. Filtering -/

namespace ConditionSet

/-- No predicate of the set tells apart values that are the same. -/
def Respects (cs : ConditionSet) : Prop :=
  ∀ name p, Entries.get? name cs.entries = some p → Predicate.Respects p

variable {cs : ConditionSet} {v w : Json}

theorem echoes_subject (spec : ConditionSpec) (h : v.Same w) :
    Echoes Json.Same (subject spec v) (subject spec w) := by
  rw [subject, subject]
  cases spec.field with
  | none => exact echoes_pure h
  | some path =>
    have hfound := (Path.follows_same.echoes_resolve path h).mapError MappingError.notArray
    refine hfound.bind fun x? y? hxy => ?_
    cases hxy with
    | none => exact echoes_pure (.refl .null)
    | some hxy => exact echoes_pure hxy

theorem echoes_select {p : Predicate} (hp : Predicate.Respects p) (spec : ConditionSpec)
    {items items' : List Json} (h : List.Forall₂ Json.Same items items') :
    Echoes (List.Forall₂ Json.Same) (select p spec items) (select p spec items') := by
  have hkept : List.Forall₂ (fun c c' => Echoes (Option.Rel Json.Same)
      (do let s ← subject spec c; pure (if p s then some c else none))
      (do let s ← subject spec c'; pure (if p s then some c' else none))) items items' := by
    refine h.imp fun c c' hc => (echoes_subject spec hc).bind fun s s' hs => echoes_pure ?_
    rw [hp s s' hs]
    split
    · exact .some hc
    · exact .none
  refine (echoes_mapM hkept).bind fun kept kept' hk => ?_
  exact echoes_pure (List.rel_filterMap (fun _ _ h => h) hk)

theorem same_collapse (many : Bool) {items items' : List Json}
    (h : List.Forall₂ Json.Same items items') :
    (Json.collapse many items).Same (Json.collapse many items') := by
  have harr := Json.same_arr h
  cases many with
  | true => exact harr
  | false =>
    cases h with
    | nil => exact harr
    | cons hvw hrest =>
      cases hrest with
      | nil => exact hvw
      | cons => exact harr

theorem rel_contribution (many : Bool) (spec : ConditionSpec) {items items' : List Json}
    (h : List.Forall₂ Json.Same items items') :
    Option.Rel Json.Same (contribution many spec items) (contribution many spec items') := by
  have hempty : items.isEmpty = items'.isEmpty := by cases h <;> rfl
  rw [contribution, contribution, hempty]
  split
  · exact .none
  · cases spec.output with
    | none => exact .some (same_collapse many h)
    | some output => exact .some (.refl output)

theorem echoes_applySpec (hcs : cs.Respects) (h : v.Same w) (spec : ConditionSpec) :
    Echoes (Option.Rel Json.Same) (cs.applySpec v spec) (cs.applySpec w spec) := by
  rw [applySpec, applySpec]
  cases hp : Entries.get? spec.name cs.entries with
  | none => exact echoes_throw _
  | some p =>
    refine (echoes_select (hcs _ _ hp) spec h.candidates).bind fun kept kept' hk => ?_
    rw [h.isMany]
    exact echoes_pure (rel_contribution _ spec hk)

theorem rel_combine {vs ws : List Json} (h : List.Forall₂ Json.Same vs ws) :
    Option.Rel Json.Same (combine vs) (combine ws) := by
  have harr := Json.same_arr h
  cases h with
  | nil => exact .none
  | cons hvw hrest =>
    cases hrest with
    | nil => exact .some hvw
    | cons => exact .some harr

/-- **What respecting conditions leave of values that are the same is the same.** -/
theorem Respects.echoes_apply (hcs : cs.Respects) (h : v.Same w) (specs : List ConditionSpec) :
    Echoes (Option.Rel Json.Same) (cs.apply v specs) (cs.apply w specs) := by
  have hspecs := echoes_mapM (List.forall₂_same.mpr fun spec (_ : spec ∈ specs) =>
    echoes_applySpec hcs h spec)
  refine hspecs.bind fun vs ws hvs => echoes_pure (rel_combine ?_)
  exact List.rel_filterMap (fun _ _ h => h) hvs

end ConditionSet

/-! ## 2. Classes -/

namespace ConditionClasses

/-- A class makes predicates that respect equality. -/
def MakesRespecting (c : ConditionClass) : Prop := ∀ v p, c v = .ok p → Predicate.Respects p

/-- The classes that do not look at the text of a value. -/
def respecting : List String := ["Equals", "NotEquals", "OneOf", "NoneOf", "Present", "Blank"]

theorem respects_memberOf (items : List Json) : Predicate.Respects fun v => v.memberOf items :=
  fun _ _ h => h.memberOf (Json.Same.refl_items items)

theorem makesRespecting_oneOf : MakesRespecting oneOf := by
  intro v p h
  obtain ⟨items, -, hp⟩ := Result.bind_eq_ok.mp h
  cases hp
  exact respects_memberOf items

theorem makesRespecting_noneOf : MakesRespecting noneOf := by
  intro v p h
  obtain ⟨items, -, hp⟩ := Result.bind_eq_ok.mp h
  cases hp
  exact fun v w hvw => congrArg (!·) (respects_memberOf items v w hvw)

theorem makesRespecting_of_mem {name : String} (hn : name ∈ respecting) {c : ConditionClass}
    (hc : Entries.get? name builtin.entries = some c) : MakesRespecting c := by
  simp only [respecting, List.mem_cons, List.not_mem_nil, or_false] at hn
  rcases hn with rfl | rfl | rfl | rfl | rfl | rfl <;> cases hc
  · rintro v p ⟨⟩
    exact fun x y h => h.equal (.refl v)
  · rintro v p ⟨⟩
    exact fun x y h => congrArg (!·) (h.equal (.refl v))
  · exact makesRespecting_oneOf
  · exact makesRespecting_noneOf
  · rintro v p ⟨⟩
    exact fun x y h => congrArg (!·) h.isBlank
  · rintro v p ⟨⟩
    exact fun x y h => h.isBlank

/-- **Conditions of these classes respect equality.** -/
theorem respects_of_build {defs : Entries ConditionDef} {cs : ConditionSet}
    (h : ConditionSet.build builtin defs = .ok cs) (hd : ∀ d ∈ defs, d.2.className ∈ respecting) :
    cs.Respects := by
  intro name p hp
  obtain ⟨built, hbuilt, hcs⟩ := Result.bind_eq_ok.mp h
  cases hcs
  have hmem : (name, p) ∈ built := Entries.mem_of_mem_ofList (Entries.mem_of_get? hp)
  obtain ⟨d, hdefs, hdp⟩ := Result.exists_of_mem_mapM hbuilt hmem
  obtain ⟨p', hp', he⟩ := Result.bind_eq_ok.mp hdp
  cases he
  rw [build] at hp'
  split at hp'
  · next c hc => exact makesRespecting_of_mem (hd d hdefs) hc _ _ hp'
  · cases hp'

end ConditionClasses

end Reshape
