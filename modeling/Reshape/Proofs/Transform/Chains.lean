/-
# Chains of transforms

A chain runs its steps one by one from the left.  `Takes` and `Breaks` say what a single step does
to a value: its name is looked up when its turn comes, so a step without a transform is found only
by a value that has come that far.  `Runs` puts steps together.  A chain has a value exactly where
its steps run through, and its error is that of the step at which they stop
(`result_apply_eq_ok`, `result_apply_eq_error`).

Of a registry a chain sees no more than what is found under the names of its steps
(`apply_congr`), and of several transforms registered under one name that is the last one
(`get?_registerAll`).

Main statement: `apply_composes`.
-/
import Reshape.Proofs.Sequence
import Reshape.Proofs.Written
import Reshape.Transform.Builtin

namespace Reshape

open Reporting

/-! ## 1. Steps as texts -/

/-- A step as it is written. -/
def TransformStep.text (step : TransformStep) : String :=
  Text.join '|' (step.name :: step.params)

/-- Reading a step loses nothing. -/
theorem TransformStep.text_ofString (s : String) : (ofString s).text = s := by
  have hjoin : Text.join '|' (Text.split '|' s) = s := Text.join_split s
  rw [text, ofString]
  cases hs : Text.split '|' s with
  | nil => exact absurd hs (Text.split_ne_nil s)
  | cons name params => rw [← hs, hjoin]

theorem TransformSpec.text_ofStrings (steps : List String) :
    (ofStrings steps).map TransformStep.text = steps := by
  rw [ofStrings, List.map_map]
  exact (List.map_congr_left fun s _ => TransformStep.text_ofString s).trans (List.map_id steps)

namespace TransformRegistry

variable {r r' : TransformRegistry} {step : TransformStep} {steps : TransformSpec} {v w : Json}
  {e : TransformError}

/-! ## 2. One by one -/

/-- A step takes one value to another: there is a transform of its name, and it succeeds. -/
inductive Takes (r : TransformRegistry) (step : TransformStep) (v w : Json) : Prop
  | intro {t : Transform} (ht : Entries.get? step.name r.entries = some t)
      (hw : (t v step.params).result = .ok w)

/-- A step breaks on a value: there is no transform of its name, or there is one that fails. -/
inductive Breaks (r : TransformRegistry) (step : TransformStep) (v : Json) :
    TransformError → Prop
  | unknown (h : r.contains step.name = false) : Breaks r step v (.unknown step.name)
  | failed {t : Transform} {e : TransformError}
      (ht : Entries.get? step.name r.entries = some t)
      (he : (t v step.params).result = .error e) : Breaks r step v e

/-- Steps, one by one from the left, take one value to another. -/
inductive Runs (r : TransformRegistry) : TransformSpec → Json → Json → Prop
  | nil (v : Json) : Runs r [] v v
  | cons {step : TransformStep} {steps : TransformSpec} {u v w : Json} (h : r.Takes step u v)
      (hs : Runs r steps v w) : Runs r (step :: steps) u w

theorem contains_eq_false_iff {name : String} :
    r.contains name = false ↔ Entries.get? name r.entries = none := by
  rw [contains, Entries.contains]
  cases Entries.get? name r.entries <;> simp

theorem result_applyStep_eq_ok : (r.applyStep v step).result = .ok w ↔ r.Takes step v w := by
  unfold applyStep
  constructor
  · intro h
    split at h
    · next t ht => exact ⟨ht, h⟩
    · cases h
  · rintro ⟨ht, hw⟩
    rw [ht]
    exact hw

theorem result_applyStep_eq_error :
    (r.applyStep v step).result = .error e ↔ r.Breaks step v e := by
  unfold applyStep
  constructor
  · intro h
    split at h
    · next t ht => exact .failed ht h
    · next hnone =>
      cases h
      exact .unknown (contains_eq_false_iff.mpr hnone)
  · rintro (h | ⟨ht, he⟩)
    · rw [contains_eq_false_iff.mp h]
      rfl
    · rw [ht]
      exact he

/-- A chain has a value exactly where its steps run through. -/
theorem result_apply_eq_ok : (r.apply v steps).result = .ok w ↔ r.Runs steps v w := by
  induction steps generalizing v with
  | nil =>
    constructor
    · intro h
      cases h
      exact .nil _
    · rintro ⟨⟩
      rfl
  | cons step steps ih =>
    rw [apply, result_bind_eq_ok]
    constructor
    · rintro ⟨u, hu, h⟩
      exact .cons (result_applyStep_eq_ok.mp hu) (ih.mp h)
    · rintro (_ | ⟨hu, h⟩)
      exact ⟨_, result_applyStep_eq_ok.mpr hu, ih.mpr h⟩

/-- **A chain fails with the error of the first step that breaks.** -/
theorem result_apply_eq_error :
    (r.apply v steps).result = .error e ↔ ∃ before step after w,
      steps = before ++ step :: after ∧ r.Runs before v w ∧ r.Breaks step w e := by
  induction steps generalizing v with
  | nil =>
    constructor
    · intro h
      cases h
    · rintro ⟨before, step, after, w, h, -⟩
      simp at h
  | cons first steps ih =>
    rw [apply, result_bind_eq_error]
    constructor
    · rintro (h | ⟨u, hu, h⟩)
      · exact ⟨[], first, steps, v, rfl, .nil v, result_applyStep_eq_error.mp h⟩
      · obtain ⟨before, step, after, w, rfl, hruns, hbreaks⟩ := ih.mp h
        exact ⟨first :: before, step, after, w, rfl,
          .cons (result_applyStep_eq_ok.mp hu) hruns, hbreaks⟩
    · rintro ⟨before, step, after, w, hsteps, hruns, hbreaks⟩
      cases hruns with
      | nil =>
        obtain ⟨rfl, -⟩ := List.cons.inj hsteps
        exact .inl (result_applyStep_eq_error.mpr hbreaks)
      | cons hu hruns =>
        obtain ⟨rfl, rfl⟩ := List.cons.inj hsteps
        exact .inr ⟨_, result_applyStep_eq_ok.mpr hu,
          ih.mpr ⟨_, step, after, w, rfl, hruns, hbreaks⟩⟩

/-! ## 3. Registrations -/

/-- Registers transforms one after the other. -/
def registerAll (r : TransformRegistry) (news : Entries Transform) : TransformRegistry :=
  news.foldl (fun r entry => r.register entry.1 entry.2) r

/-- Under a name stands what was registered last, or else what stood there before. -/
theorem get?_registerAll (name : String) (news : Entries Transform) :
    Entries.get? name (r.registerAll news).entries =
      (Entries.get? name news.reverse).or (Entries.get? name r.entries) := by
  induction news using List.reverseRecOn with
  | nil => rfl
  | append_singleton news entry ih =>
    obtain ⟨k, t⟩ := entry
    have hlast : r.registerAll (news ++ [(k, t)]) = (r.registerAll news).register k t :=
      List.foldl_append
    rw [hlast, register, Entries.get?_insert, ih, List.reverse_append, List.reverse_singleton,
      List.singleton_append, Entries.get?_cons]
    split <;> rfl

/-- A chain sees no more of a registry than what stands under the names of its steps. -/
theorem apply_congr (h : ∀ step ∈ steps,
    Entries.get? step.name r.entries = Entries.get? step.name r'.entries) (v : Json) :
    r.apply v steps = r'.apply v steps := by
  induction steps generalizing v with
  | nil => rfl
  | cons step steps ih =>
    have hstep : r.applyStep v step = r'.applyStep v step := by
      rw [applyStep, applyStep, h step List.mem_cons_self]
    rw [apply, apply, hstep]
    exact congrArg _ (funext fun u => ih (fun s hs => h s (List.mem_cons_of_mem step hs)) u)

/-- What was registered under a name is gone once something is registered under it again. -/
theorem get?_registerAll_replaced {before between after : Entries Transform} {name : String}
    {t u : Transform} (key : String) :
    Entries.get? key
        (r.registerAll (before ++ (name, t) :: between ++ (name, u) :: after)).entries =
      Entries.get? key (r.registerAll (before ++ between ++ (name, u) :: after)).entries := by
  rw [get?_registerAll, get?_registerAll]
  by_cases hk : name = key
  · simp [Entries.get?_append, hk]
  · simp [Entries.get?_append, hk]

/-! ## 4. Chains -/

/-- **Chains compose.**  A chain in two parts is the second part on what the first comes to, and
fails with the error of the first part where that fails.  It has a value exactly where its steps run
through one by one, and otherwise the error of the first step that breaks; an unknown step breaks
only on a value that the steps before it have come to.  No steps and no chain change nothing.
Chains that texts write are put together like the texts, none of which loses anything, and a
transform that is registered again is replaced in every chain, whatever else is registered before,
between and after. -/
theorem apply_composes (r : TransformRegistry) (v : Json) :
    (∀ s t : TransformSpec, r.apply v (s ++ t) = r.apply v s >>= fun w => r.apply w t) ∧
    (∀ (s t : TransformSpec) (e : TransformError), (r.apply v s).result = .error e →
      r.apply v (s ++ t) = r.apply v s) ∧
    (∀ s w, (r.apply v s).result = .ok w ↔ r.Runs s v w) ∧
    (∀ s e, (r.apply v s).result = .error e ↔ ∃ before step after w,
      s = before ++ step :: after ∧ r.Runs before v w ∧ r.Breaks step w e) ∧
    r.apply v [] = pure v ∧
    r.applyOptional v none = pure v ∧
    (∀ s t : List String, TransformSpec.ofStrings (s ++ t) = .ofStrings s ++ .ofStrings t ∧
      (TransformSpec.ofStrings s).map TransformStep.text = s) ∧
    (∀ (before between after : Entries Transform) (name : String) (t u : Transform)
      (s : TransformSpec),
      (r.registerAll (before ++ (name, t) :: between ++ (name, u) :: after)).apply v s =
        (r.registerAll (before ++ between ++ (name, u) :: after)).apply v s) ∧
    (∀ (before : Entries Transform) (name : String) (u : Transform) (params : List String),
      (r.registerAll (before ++ [(name, u)])).apply v [⟨name, params⟩] = u v params) := by
  refine ⟨r.apply_append v, ?_, fun _ _ => result_apply_eq_ok, fun _ _ => result_apply_eq_error,
    rfl, rfl, ?_, ?_, ?_⟩
  · intro s t e he
    rw [apply_append, bind_of_error he]
    exact Reporting.ext he.symm rfl
  · intro s t
    exact ⟨TransformSpec.ofStrings_append s t, TransformSpec.text_ofStrings s⟩
  · intro before between after name t u s
    exact apply_congr (fun step _ => get?_registerAll_replaced step.name) v
  · intro before name u params
    have hfound : Entries.get? name (r.registerAll (before ++ [(name, u)])).entries = some u := by
      rw [get?_registerAll, List.reverse_append, List.reverse_singleton, List.singleton_append,
        Entries.get?_cons, if_pos rfl, Option.some_or]
    simp [apply, applyStep, hfound]

/-- A step of an unknown name, behind a step that succeeds and before one that would fail. -/
theorem shout_composes :
    (builtin.apply (.str "X") (.ofStrings ["downcase", "shout"])).result =
      .error (.unknown "shout") ∧
    (builtin.apply (.str "X")
      (.ofStrings ["downcase", "shout"] ++ .ofStrings ["upcase|loud"])).result =
      .error (.unknown "shout") ∧
    (builtin.apply (.str "X") (.ofStrings ["upcase|loud", "shout"])).result =
      .error (.invalidArguments "upcase" "expected 0 parameter(s), got 1") := by
  have hshout : (builtin.apply (.str "X") (.ofStrings ["downcase", "shout"])).result =
      .error (.unknown "shout") := by
    decide +kernel
  have hwhole := (apply_composes builtin (.str "X")).2.1 (.ofStrings ["downcase", "shout"])
    (.ofStrings ["upcase|loud"]) _ hshout
  exact ⟨hshout, by rw [hwhole, hshout], by decide +kernel⟩

end TransformRegistry

end Reshape
