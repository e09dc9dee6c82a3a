/-
# Transforms that respect equality

A transform respects equality if it makes of values that are the same what is the same, or fails
in the same way, after the same notices (`Transform.Respects`).  So do chains of such transforms
(`echoes_chain`).

Of the transforms that are always there nine respect equality (`Transform.respecting`).  The
others read the text of a value or the entries of an object in their order.
-/
import Reshape.Proofs.Echo
import Reshape.Proofs.Json.Equality
import Reshape.Transform.Builtin

namespace Reshape

open Reporting

namespace Transform

/-- A transform makes of values that are the same what is the same. -/
def Respects (t : Transform) : Prop :=
  ∀ (v w : Json) (params : List String), v.Same w → Echoes Json.Same (t v params) (t w params)

variable {v w : Json} {items items' : List Json}

/-! ## 1. By the number of parameters -/

/-- Two results are the same values, or the same error. -/
abbrev SameResults (x y : Except TransformError Json) : Prop := Result.Agree Eq Json.Same x y

theorem respects_nullary {name : String} {f : Json → Except TransformError Json}
    (h : ∀ v w, v.Same w → SameResults (f v) (f w)) : Respects (nullary name f) := by
  intro v w params hvw
  cases params with
  | nil => exact ⟨h v w hvw, rfl⟩
  | cons => exact echoes_throw _

theorem respects_unary {name : String} {f : Json → String → Except TransformError Json}
    (h : ∀ v w p, v.Same w → SameResults (f v p) (f w p)) : Respects (unary name f) := by
  intro v w params hvw
  match params with
  | [p] => exact ⟨h v w p hvw, rfl⟩
  | [] => exact echoes_throw _
  | _ :: _ :: _ => exact echoes_throw _

theorem respects_binary {name : String}
    {f : Json → String → String → Except TransformError Json}
    (h : ∀ v w p q, v.Same w → SameResults (f v p q) (f w p q)) : Respects (binary name f) := by
  intro v w params hvw
  match params with
  | [p, q] => exact ⟨h v w p q hvw, rfl⟩
  | [] => exact echoes_throw _
  | [_] => exact echoes_throw _
  | _ :: _ :: _ :: _ => exact echoes_throw _

/-! ## 2. Arrays -/

theorem same_getD {v? w? : Option Json} (h : Option.Rel Json.Same v? w?) :
    (v?.getD .null).Same (w?.getD .null) := by
  cases h with
  | none => exact .refl .null
  | some hvw => exact hvw

theorem same_dedup (h : List.Forall₂ Json.Same items items') :
    List.Forall₂ Json.Same (Json.dedup items) (Json.dedup items') :=
  Json.forall₂_dedup (fun _ _ => id) h

theorem same_wrap (h : v.Same w) : List.Forall₂ Json.Same (wrap v) (wrap w) := by
  cases h.parts with
  | null => exact .nil
  | arr hs => exact hs
  | _ => exact .cons h .nil

theorem respects_toArray : Respects toArray := by
  refine respects_nullary fun v w h => .ok (Json.same_arr ?_)
  exact Json.forall₂_dropNulls (fun _ _ => id) (same_dedup (same_wrap h))

theorem rel_head? (h : List.Forall₂ Json.Same items items') :
    Option.Rel Json.Same items.head? items'.head? := by
  cases h with
  | nil => exact .none
  | cons hvw => exact .some hvw

theorem respects_firstValue : Respects firstValue := by
  refine respects_nullary fun v w h => ?_
  cases h.parts with
  | arr hs => exact .ok (same_getD (rel_head? hs))
  | _ => exact .ok h

theorem respects_lastValue : Respects lastValue := by
  refine respects_nullary fun v w h => ?_
  cases h.parts with
  | arr hs =>
    refine .ok (same_getD ?_)
    rw [List.getLast?_eq_head?_reverse, List.getLast?_eq_head?_reverse]
    exact rel_head? (List.rel_reverse hs)
  | _ => exact .ok h

theorem respects_uniqArray : Respects uniqArray := by
  refine respects_nullary fun v w h => ?_
  cases h.parts with
  | arr hs => exact .ok (Json.same_arr (same_dedup hs))
  | _ => exact .ok h

theorem respects_arraySize : Respects arraySize := by
  refine respects_nullary fun v w h => ?_
  cases h.parts with
  | @arr items items' hs =>
    dsimp only
    rw [hs.length_eq]
    exact .ok (.refl _)
  | _ => exact .ok (.refl _)

/-! ## 3. The greatest item -/

/-- Two numbers, if any, have one value. -/
abbrev SameNumbers (x? y? : Option Binary64) : Prop :=
  Option.Rel (fun x y => x.sameValue y = true) x? y?

theorem sameNumbers_toBinary64? (h : v.Same w) : SameNumbers v.toBinary64? w.toBinary64? := by
  have hint : ∀ n, SameNumbers (Binary64.ofInt? n) (Binary64.ofInt? n) := by
    intro n
    cases Binary64.ofInt? n with
    | none => exact .none
    | some x => exact .some (beq_self_eq_true x.order)
  cases h.parts with
  | int n => exact hint n
  | float hxy => exact .some hxy
  | _ => exact .none

theorem atLeast_eq {v' w' : Json} (h : v.Same w) (h' : v'.Same w') :
    atLeast v v' = atLeast w w' := by
  have hx := sameNumbers_toBinary64? h
  have hy := sameNumbers_toBinary64? h'
  rw [atLeast, atLeast]
  generalize v.toBinary64? = x? at hx ⊢
  generalize w.toBinary64? = x?' at hx ⊢
  generalize v'.toBinary64? = y? at hy ⊢
  generalize w'.toBinary64? = y?' at hy ⊢
  cases hx with
  | none => rfl
  | some hx =>
    cases hy with
    | none => rfl
    | some hy =>
      dsimp only
      rw [Binary64.le, Binary64.le, eq_of_beq hx, eq_of_beq hy]

theorem same_greatestNumber (h : v.Same w) (hs : List.Forall₂ Json.Same items items') :
    (greatestNumber v items).Same (greatestNumber w items') := by
  induction hs generalizing v w with
  | nil => exact h
  | @cons x y items items' hxy _ ih =>
    refine ih ?_
    dsimp only
    rw [atLeast_eq h hxy]
    split
    · exact h
    · exact hxy

theorem isNumber_eq (h : v.Same w) : v.isNumber = w.isNumber := by
  cases h.parts <;> rfl

theorem str?_eq (h : v.Same w) : v.str? = w.str? := by
  cases h.parts <;> rfl

theorem all_isNumber_eq (h : List.Forall₂ Json.Same items items') :
    items.all Json.isNumber = items'.all Json.isNumber := by
  induction h with
  | nil => rfl
  | cons hvw _ ih => rw [List.all_cons, List.all_cons, isNumber_eq hvw, ih]

theorem mapM_str?_eq (h : List.Forall₂ Json.Same items items') :
    items.mapM Json.str? = items'.mapM Json.str? := by
  induction h with
  | nil => rfl
  | cons hvw _ ih => rw [List.mapM_cons, List.mapM_cons, str?_eq hvw, ih]

theorem respects_maxValue : Respects maxValue := by
  refine respects_nullary fun v w h => ?_
  cases h.parts with
  | arr hs =>
    have hnumbers := all_isNumber_eq hs
    have htexts := mapM_str?_eq hs
    cases hs with
    | nil => exact .ok (.refl .null)
    | cons hvw hs =>
      dsimp only
      rw [hnumbers, htexts]
      split
      · exact .ok (same_greatestNumber hvw hs)
      · split
        · exact .ok (.refl _)
        · exact .error rfl
  | _ => exact .ok h

/-! ## 4. Objects -/

theorem rel_get? (key : String) (h : v.Same w) :
    Option.Rel Json.Same (Json.get? key v) (Json.get? key w) := by
  cases h.parts with
  | obj hget => exact hget key
  | _ => exact .none

theorem respects_hashValue : Respects hashValue := by
  refine respects_unary fun v w key h => ?_
  cases h.parts with
  | obj hget => exact .ok (same_getD (hget key))
  | _ => exact .ok h

theorem leadsTo_eq (keys : List String) (text : String) (h : v.Same w) :
    leadsTo keys text v = leadsTo keys text w := by
  have hwalk : Option.Rel Json.Same (keys.foldlM (fun v k => Json.get? k v) v)
      (keys.foldlM (fun v k => Json.get? k v) w) := by
    induction keys generalizing v w with
    | nil => exact .some h
    | cons key keys ih =>
      have hget := rel_get? key h
      rw [List.foldlM_cons, List.foldlM_cons]
      generalize Json.get? key v = v? at hget ⊢
      generalize Json.get? key w = w? at hget ⊢
      cases hget with
      | none => exact .none
      | some hvw => exact ih hvw
  rw [leadsTo, leadsTo]
  generalize keys.foldlM (fun v k => Json.get? k v) v = v? at hwalk ⊢
  generalize keys.foldlM (fun v k => Json.get? k v) w = w? at hwalk ⊢
  cases hwalk with
  | none => rfl
  | some hvw => cases hvw.parts <;> rfl

theorem respects_hashesFilter : Respects hashesFilter := by
  refine respects_binary fun v w chain text h => ?_
  cases h.parts with
  | arr hs =>
    refine .ok (Json.same_arr (List.rel_filter (fun v w hvw => ?_) hs))
    exact iff_of_eq (congrArg (· = true) (leadsTo_eq _ _ hvw))
  | _ => exact .ok h

/-! ## 5. Texts -/

theorem respects_jsonParse : Respects jsonParse := by
  intro v w params h
  cases params with
  | cons => exact echoes_throw _
  | nil =>
    unfold jsonParse
    dsimp only
    rw [h.isBlank]
    split
    · exact echoes_pure (.refl _)
    · cases h.parts with
      | str s => exact echoes_refl .refl _
      | _ => exact ⟨.ok h, rfl⟩

/-! ## 6. Chains -/

/-- The transforms that respect equality. -/
def respecting : List String :=
  ["to_array", "uniq_array", "first_array_value", "last_array_value", "array_size", "hash_value",
    "hashes_array_filter", "max_array_value", "json_parse"]

theorem respects_of_mem {name : String} (hn : name ∈ respecting) {t : Transform}
    (ht : Entries.get? name TransformRegistry.builtin.entries = some t) : Respects t := by
  simp only [respecting, List.mem_cons, List.not_mem_nil, or_false] at hn
  rcases hn with rfl | rfl | rfl | rfl | rfl | rfl | rfl | rfl | rfl <;> cases ht
  · exact respects_toArray
  · exact respects_uniqArray
  · exact respects_firstValue
  · exact respects_lastValue
  · exact respects_arraySize
  · exact respects_hashValue
  · exact respects_hashesFilter
  · exact respects_maxValue
  · exact respects_jsonParse

theorem respects_of_applyStep {step : TransformStep} (hn : step.name ∈ respecting)
    (h : v.Same w) : Echoes Json.Same (TransformRegistry.builtin.applyStep v step)
      (TransformRegistry.builtin.applyStep w step) := by
  rw [TransformRegistry.applyStep, TransformRegistry.applyStep]
  cases ht : Entries.get? step.name TransformRegistry.builtin.entries with
  | none => exact echoes_throw _
  | some t => exact respects_of_mem hn ht v w step.params h

/-- **A chain of steps that respect equality respects it.** -/
theorem echoes_chain {steps : TransformSpec} (hn : ∀ step ∈ steps, step.name ∈ respecting)
    (h : v.Same w) : Echoes Json.Same (TransformRegistry.builtin.apply v steps)
      (TransformRegistry.builtin.apply w steps) := by
  induction steps generalizing v w with
  | nil => exact echoes_pure h
  | cons step steps ih =>
    have hstep := respects_of_applyStep (hn step List.mem_cons_self) h
    exact hstep.bind fun v' w' h' => ih (fun s hs => hn s (List.mem_cons_of_mem step hs)) h'

end Transform

end Reshape
