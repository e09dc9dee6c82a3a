/-
# Two runs that agree

Two runs agree if both succeed, with related values, or both fail, with related errors; notices
are left aside.  `Agree E R` says so for a relation `E` of errors and a relation `R` of values.
It is kept by every way of putting runs together, so that two runs agree if their steps do.
-/
import Reshape.Proofs.Sequence

namespace Reshape

/-- Two results agree: related values, or related errors. -/
inductive Result.Agree {ε ε' α β : Type} (E : ε → ε' → Prop) (R : α → β → Prop) :
    Except ε α → Except ε' β → Prop
  | ok {a : α} {b : β} (h : R a b) : Agree E R (.ok a) (.ok b)
  | error {e : ε} {e' : ε'} (h : E e e') : Agree E R (.error e) (.error e')

theorem Result.Agree.map {ε ε' α β γ γ' : Type} {E : ε → ε' → Prop} {R : α → β → Prop}
    {S : γ → γ' → Prop} {x : Except ε α} {y : Except ε' β} {f : α → γ} {g : β → γ'}
    (h : Result.Agree E R x y) (hf : ∀ a b, R a b → S (f a) (g b)) :
    Result.Agree E S (x.map f) (y.map g) := by
  cases h with
  | ok hab => exact .ok (hf _ _ hab)
  | error he => exact .error he

namespace Reporting

variable {ε ε' δ δ' α β γ γ' : Type}

/-- Two runs agree if their results do. -/
def Agree (E : ε → ε' → Prop) (R : α → β → Prop) (x : Reporting ε α) (y : Reporting ε' β) : Prop :=
  Result.Agree E R x.result y.result

variable {E : ε → ε' → Prop} {R : α → β → Prop} {S : γ → γ' → Prop}

/-! ## 1. Putting runs together -/

theorem agree_pure {a : α} {b : β} (h : R a b) :
    Agree E R (pure a : Reporting ε α) (pure b : Reporting ε' β) :=
  .ok h

/-- What follows need only agree on values that the first run can have. -/
theorem Agree.bind_of_ok {x : Reporting ε α} {y : Reporting ε' β} {f : α → Reporting ε γ}
    {g : β → Reporting ε' γ'} (h : Agree E R x y)
    (hf : ∀ a b, x.result = .ok a → R a b → Agree E S (f a) (g b)) :
    Agree E S (x >>= f) (y >>= g) := by
  unfold Agree at h hf ⊢
  rw [result_bind, result_bind]
  generalize x.result = r at h hf ⊢
  generalize y.result = s at h ⊢
  cases h with
  | ok hab => exact hf _ _ rfl hab
  | error he => exact .error he

theorem Agree.bind {x : Reporting ε α} {y : Reporting ε' β} {f : α → Reporting ε γ}
    {g : β → Reporting ε' γ'} (h : Agree E R x y) (hf : ∀ a b, R a b → Agree E S (f a) (g b)) :
    Agree E S (x >>= f) (y >>= g) :=
  h.bind_of_ok fun a b _ hab => hf a b hab

/-- Lists in step are gone through in step. -/
theorem agree_mapM {f : α → Reporting ε γ} {g : β → Reporting ε' γ'} {xs : List α} {ys : List β}
    (h : List.Forall₂ (fun x y => Agree E S (f x) (g y)) xs ys) :
    Agree E (List.Forall₂ S) (xs.mapM f) (ys.mapM g) := by
  induction h with
  | nil => exact agree_pure .nil
  | cons hxy _ ih =>
    rw [List.mapM_cons, List.mapM_cons]
    refine hxy.bind fun c d hcd => ih.bind fun cs ds hcds => agree_pure ?_
    exact .cons hcd hcds

theorem agree_mapM_eq {f : α → Reporting ε γ} {g : β → Reporting ε' γ} {xs : List α}
    {ys : List β} (h : List.Forall₂ (fun x y => Agree E Eq (f x) (g y)) xs ys) :
    Agree E Eq (xs.mapM f) (ys.mapM g) := by
  have hall := agree_mapM h
  rwa [List.forall₂_eq_eq_eq] at hall

/-- A list is gone through in two ways, with the same values. -/
theorem agree_mapM_same {f : α → Reporting ε γ} {g : α → Reporting ε' γ} (xs : List α)
    (h : ∀ x, Agree E Eq (f x) (g x)) : Agree E Eq (xs.mapM f) (xs.mapM g) :=
  agree_mapM_eq (List.forall₂_same.mpr fun x _ => h x)

theorem Agree.mapError {F : δ → δ' → Prop} {x : Reporting ε α} {y : Reporting ε' β} {f : ε → δ}
    {g : ε' → δ'} (h : Agree E R x y) (hf : ∀ e e', E e e' → F (f e) (g e')) :
    Agree F R (x.mapError f) (y.mapError g) := by
  unfold Agree at h ⊢
  unfold Reporting.mapError
  generalize x.result = r at h ⊢
  generalize y.result = s at h ⊢
  cases h with
  | ok hab => exact .ok hab
  | error he => exact .error (hf _ _ he)

/-! ## 2. Agreement as a relation -/

theorem agree_refl {E : ε → ε → Prop} (hE : ∀ e, E e e) (x : Reporting ε α) : Agree E Eq x x := by
  unfold Agree
  cases x.result with
  | ok a => exact .ok rfl
  | error e => exact .error (hE e)

/-- Two runs that agree with a third one agree. -/
theorem Agree.of_common {E : ε → ε → Prop} {x y z : Reporting ε α} (hx : Agree E Eq x z)
    (hy : Agree E Eq y z) (hE : ∀ e e' e'', E e e'' → E e' e'' → E e e') : Agree E Eq x y := by
  unfold Agree at hx hy ⊢
  generalize x.result = r at hx ⊢
  generalize y.result = s at hy ⊢
  generalize z.result = t at hx hy
  cases hx with
  | ok ha =>
    cases hy with
    | ok hb => exact .ok (ha.trans hb.symm)
  | error he =>
    cases hy with
    | error he' => exact .error (hE _ _ _ he he')

end Reporting

end Reshape
