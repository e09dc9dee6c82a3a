/-
# Runs that echo each other

Two runs echo each other if they agree on their results, down to the error of a failure, and
send the same notices in the same order.  `Echoes R` compares values by a relation `R`; for
equality it is equality of runs (`echoes_eq_iff`).  Like agreement it is kept by every way of
putting runs together.
-/
import Reshape.Proofs.Agreement

namespace Reshape.Reporting

variable {ε ε' α β γ γ' : Type}

/-- Two runs have related values, or the same error, after the same notices. -/
structure Echoes (R : α → β → Prop) (x : Reporting ε α) (y : Reporting ε β) : Prop where
  agree : Agree Eq R x y
  notices : x.notices = y.notices

variable {R R' : α → β → Prop} {S : γ → γ' → Prop} {x : Reporting ε α} {y : Reporting ε β}

/-! ## 1. Single steps -/

theorem echoes_pure {a : α} {b : β} (h : R a b) :
    Echoes R (pure a : Reporting ε α) (pure b : Reporting ε β) :=
  ⟨agree_pure h, rfl⟩

theorem echoes_throw (e : ε) : Echoes R (throw e : Reporting ε α) (throw e : Reporting ε β) :=
  ⟨.error rfl, rfl⟩

theorem echoes_refl {R : α → α → Prop} (hR : ∀ a, R a a) (x : Reporting ε α) : Echoes R x x := by
  refine ⟨?_, rfl⟩
  unfold Agree
  cases x.result with
  | ok a => exact .ok (hR a)
  | error e => exact .error rfl

/-- Runs that echo each other with equal values are equal. -/
theorem echoes_eq_iff {x y : Reporting ε α} : Echoes Eq x y ↔ x = y := by
  constructor
  · rintro ⟨hr, hn⟩
    refine ext ?_ hn
    unfold Agree at hr
    generalize x.result = r at hr ⊢
    generalize y.result = s at hr ⊢
    cases hr with
    | ok h => rw [h]
    | error h => rw [h]
  · rintro rfl
    exact echoes_refl (fun _ => rfl) x

theorem Echoes.imp (h : Echoes R x y) (hR : ∀ a b, R a b → R' a b) : Echoes R' x y := by
  refine ⟨?_, h.notices⟩
  have hr := h.agree
  unfold Agree at hr ⊢
  generalize x.result = r at hr ⊢
  generalize y.result = s at hr ⊢
  cases hr with
  | ok hab => exact .ok (hR _ _ hab)
  | error he => exact .error he

theorem Echoes.mapError (h : Echoes R x y) (f : ε → ε') :
    Echoes R (x.mapError f) (y.mapError f) :=
  ⟨h.agree.mapError fun _ _ he => congrArg f he, h.notices⟩

/-! ## 2. Sequences -/

/-- What follows need only echo on values that the first run can have. -/
theorem Echoes.bind_of_ok {f : α → Reporting ε γ} {g : β → Reporting ε γ'} (h : Echoes R x y)
    (hf : ∀ a b, x.result = .ok a → R a b → Echoes S (f a) (g b)) :
    Echoes S (x >>= f) (y >>= g) := by
  refine ⟨h.agree.bind_of_ok fun a b ha hab => (hf a b ha hab).agree, ?_⟩
  have hr := h.agree
  unfold Agree at hr
  rw [notices_bind, notices_bind, h.notices]
  generalize x.result = r at hf hr ⊢
  generalize y.result = s at hr ⊢
  cases hr with
  | ok hab => exact congrArg _ (hf _ _ rfl hab).notices
  | error he => rfl

theorem Echoes.bind {f : α → Reporting ε γ} {g : β → Reporting ε γ'} (h : Echoes R x y)
    (hf : ∀ a b, R a b → Echoes S (f a) (g b)) : Echoes S (x >>= f) (y >>= g) :=
  h.bind_of_ok fun a b _ hab => hf a b hab

/-- Lists in step are gone through in step. -/
theorem echoes_mapM {f : α → Reporting ε γ} {g : β → Reporting ε γ'} {xs : List α} {ys : List β}
    (h : List.Forall₂ (fun a b => Echoes S (f a) (g b)) xs ys) :
    Echoes (List.Forall₂ S) (xs.mapM f) (ys.mapM g) := by
  induction h with
  | nil => exact echoes_pure .nil
  | cons hab _ ih =>
    rw [List.mapM_cons, List.mapM_cons]
    refine hab.bind fun c d hcd => ih.bind fun cs ds hcds => echoes_pure ?_
    exact .cons hcd hcds

end Reshape.Reporting
