/-
# Results of runs in sequence

What a run of several steps comes to, said of the results alone: notices are left aside.  A
sequence succeeds when every step does (`bind_eq_ok`, `mapM_eq_ok`), and it fails with the
first failure (`bind_eq_error`, `mapM_eq_error`).  The same four facts are stated for `Except`
and for the results of `Reporting`, whose sequences are sequences of results
(`result_mapM`).

Failures have a second reading.  `OnlyFails P x` says that `x` fails, if at all, with an error
that meets `P`; it is kept by every way of putting runs together, so a property of the errors
of a run follows from one of the errors of its steps.
-/
import Mathlib.Data.List.Forall2
import Reshape.Reporting

namespace Reshape

/-! ## 1. Sequences of results -/

namespace Result

variable {ε α β : Type}

theorem bind_eq_ok {x : Except ε α} {f : α → Except ε β} {b : β} :
    x >>= f = .ok b ↔ ∃ a, x = .ok a ∧ f a = .ok b := by
  cases x <;> simp [bind, Except.bind]

theorem bind_eq_error {x : Except ε α} {f : α → Except ε β} {e : ε} :
    x >>= f = .error e ↔ x = .error e ∨ ∃ a, x = .ok a ∧ f a = .error e := by
  cases x <;> simp [bind, Except.bind]

/-- Going through a list succeeds exactly with the values of its items. -/
theorem mapM_eq_ok {f : α → Except ε β} {xs : List α} {ys : List β} :
    xs.mapM f = .ok ys ↔ List.Forall₂ (fun x y => f x = .ok y) xs ys := by
  induction xs generalizing ys with
  | nil => cases ys <;> simp [pure, Except.pure]
  | cons x xs ih =>
    rw [List.mapM_cons, bind_eq_ok, List.forall₂_cons_left_iff]
    simp only [bind_eq_ok, ih]
    constructor
    · rintro ⟨y, hy, rest, hrest, hys⟩
      cases hys
      exact ⟨y, rest, hy, hrest, rfl⟩
    · rintro ⟨y, rest, hy, hrest, rfl⟩
      exact ⟨y, hy, rest, hrest, rfl⟩

/-- Going through a list fails with the failure of the first item that has one. -/
theorem mapM_eq_error {f : α → Except ε β} {xs : List α} {e : ε} :
    xs.mapM f = .error e ↔ ∃ before x after, xs = before ++ x :: after ∧
      (∀ y ∈ before, ∃ b, f y = .ok b) ∧ f x = .error e := by
  induction xs with
  | nil => simp [pure, Except.pure]
  | cons x xs ih =>
    rw [List.mapM_cons, bind_eq_error]
    constructor
    · rintro (hx | ⟨b, hb, h⟩)
      · exact ⟨[], x, xs, rfl, by simp, hx⟩
      · rcases bind_eq_error.mp h with h | ⟨bs, -, h⟩
        · obtain ⟨before, z, after, rfl, hok, hz⟩ := ih.mp h
          refine ⟨x :: before, z, after, rfl, ?_, hz⟩
          intro y hy
          rcases List.mem_cons.mp hy with rfl | hy
          · exact ⟨b, hb⟩
          · exact hok y hy
        · cases h
    · rintro ⟨before, z, after, hxs, hok, hz⟩
      cases before with
      | nil =>
        obtain ⟨rfl, -⟩ := List.cons.inj hxs
        exact Or.inl hz
      | cons y before =>
        obtain ⟨rfl, rfl⟩ := List.cons.inj hxs
        obtain ⟨b, hb⟩ := hok x (by simp)
        have h : (before ++ z :: after).mapM f = .error e :=
          ih.mpr ⟨before, z, after, rfl, fun w hw => hok w (by simp [hw]), hz⟩
        exact Or.inr ⟨b, hb, bind_eq_error.mpr (Or.inl h)⟩

/-- Going through a list with the same steps, each followed by `h`. -/
theorem mapM_eq_map {γ : Type} {f : α → Except ε β} {g : α → Except ε γ} {h : β → γ}
    {xs : List α} (hfg : ∀ x ∈ xs, g x = (f x).map h) :
    xs.mapM g = (xs.mapM f).map (List.map h) := by
  induction xs with
  | nil => rfl
  | cons x xs ih =>
    rw [List.mapM_cons, List.mapM_cons, hfg x List.mem_cons_self,
      ih fun y hy => hfg y (List.mem_cons_of_mem x hy)]
    cases f x with
    | error e => rfl
    | ok b => cases xs.mapM f <;> rfl

/-- Every partner is the partner of an item. -/
theorem exists_of_forall₂ {R : α → β → Prop} {xs : List α} {ys : List β}
    (h : List.Forall₂ R xs ys) {y : β} (hy : y ∈ ys) : ∃ x ∈ xs, R x y := by
  induction h with
  | nil => cases hy
  | @cons x y' xs ys hxy _ ih =>
    rcases List.mem_cons.mp hy with rfl | hy
    · exact ⟨x, List.mem_cons_self, hxy⟩
    · obtain ⟨z, hz, hzy⟩ := ih hy
      exact ⟨z, List.mem_cons_of_mem x hz, hzy⟩

/-- Every value that going through a list gives is the value of an item. -/
theorem exists_of_mem_mapM {f : α → Except ε β} {xs : List α} {ys : List β}
    (h : xs.mapM f = .ok ys) {y : β} (hy : y ∈ ys) : ∃ x ∈ xs, f x = .ok y :=
  exists_of_forall₂ (mapM_eq_ok.mp h) hy

/-- Every item has a partner exactly if there are partners in step. -/
theorem exists_forall₂ {R : α → β → Prop} {xs : List α} :
    (∃ ys, List.Forall₂ R xs ys) ↔ ∀ x ∈ xs, ∃ y, R x y := by
  constructor
  · rintro ⟨ys, h⟩
    induction h with
    | nil => simp
    | cons hxy _ ih =>
      intro x hx
      rcases List.mem_cons.mp hx with rfl | hx
      · exact ⟨_, hxy⟩
      · exact ih x hx
  · intro h
    induction xs with
    | nil => exact ⟨[], .nil⟩
    | cons x xs ih =>
      obtain ⟨y, hy⟩ := h x List.mem_cons_self
      obtain ⟨ys, hys⟩ := ih fun z hz => h z (List.mem_cons_of_mem x hz)
      exact ⟨y :: ys, .cons hy hys⟩

/-- The partners of a list that is split at an item. -/
theorem forall₂_append_cons_left {R : α → β → Prop} {before after : List α} {x : α} {ys : List β}
    (h : List.Forall₂ R (before ++ x :: after) ys) :
    ∃ front y back, ys = front ++ y :: back ∧ List.Forall₂ R before front ∧ R x y ∧
      List.Forall₂ R after back := by
  induction before generalizing ys with
  | nil =>
    obtain ⟨y, back, hxy, hback, rfl⟩ := List.forall₂_cons_left_iff.mp h
    exact ⟨[], y, back, rfl, .nil, hxy, hback⟩
  | cons z before ih =>
    obtain ⟨w, rest, hzw, hrest, rfl⟩ := List.forall₂_cons_left_iff.mp h
    obtain ⟨front, y, back, rfl, hfront, hxy, hback⟩ := ih hrest
    exact ⟨w :: front, y, back, rfl, .cons hzw hfront, hxy, hback⟩

/-- Items with one and the same partner. -/
theorem forall₂_replicate {R : α → β → Prop} {xs : List α} {y : β} (h : ∀ x ∈ xs, R x y) :
    List.Forall₂ R xs (List.replicate xs.length y) := by
  induction xs with
  | nil => exact .nil
  | cons x xs ih =>
    exact .cons (h x List.mem_cons_self) (ih fun z hz => h z (List.mem_cons_of_mem x hz))

/-- Items that are made in step from other items. -/
theorem forall₂_zipWith {γ : Type} {R : α → β → Prop} {f : α → β → γ} {xs : List α}
    {zs : List γ} :
    List.Forall₂ (fun x z => ∃ y, R x y ∧ z = f x y) xs zs ↔
      ∃ ys, List.Forall₂ R xs ys ∧ zs = List.zipWith f xs ys := by
  constructor
  · intro h
    induction h with
    | nil => exact ⟨[], .nil, rfl⟩
    | cons hz _ ih =>
      obtain ⟨y, hy, rfl⟩ := hz
      obtain ⟨ys, hys, rfl⟩ := ih
      exact ⟨y :: ys, .cons hy hys, rfl⟩
  · rintro ⟨ys, h, rfl⟩
    induction h with
    | nil => exact .nil
    | cons hy _ ih => exact .cons ⟨_, hy, rfl⟩ ih

/-- A result is a failure exactly if it is no value. -/
theorem exists_error_iff {x : Except ε α} : (∃ e, x = .error e) ↔ ¬∃ a, x = .ok a := by
  cases x <;> simp

/-- Items that are made from the partners of other items. -/
theorem forall₂_map {γ : Type} {R : α → β → Prop} {g : β → γ} {xs : List α} {zs : List γ} :
    List.Forall₂ (fun x z => ∃ y, R x y ∧ z = g y) xs zs ↔
      ∃ ys, List.Forall₂ R xs ys ∧ zs = ys.map g := by
  have hzip : ∀ {ys : List β}, List.Forall₂ R xs ys →
      List.zipWith (fun _ y => g y) xs ys = ys.map g := by
    intro ys h
    induction h with
    | nil => rfl
    | cons _ _ ih => rw [List.zipWith_cons_cons, ih, List.map_cons]
  rw [forall₂_zipWith]
  constructor
  · rintro ⟨ys, h, rfl⟩
    exact ⟨ys, h, hzip h⟩
  · rintro ⟨ys, h, rfl⟩
    exact ⟨ys, h, (hzip h).symm⟩

theorem map_eq_ok {f : α → β} {x : Except ε α} {b : β} :
    x.map f = .ok b ↔ ∃ a, x = .ok a ∧ b = f a := by
  cases x <;> simp [Except.map, eq_comm]

theorem exists_map_ok {f : α → β} {x : Except ε α} :
    (∃ b, x.map f = .ok b) ↔ ∃ a, x = .ok a := by
  cases x <;> simp [Except.map]

theorem map_eq_error {f : α → β} {x : Except ε α} {e : ε} :
    x.map f = .error e ↔ x = .error e := by
  cases x <;> simp [Except.map]

theorem toOption_eq_some {x : Except ε α} {a : α} : x.toOption = some a ↔ x = .ok a := by
  cases x <;> simp [Except.toOption]

theorem mapError_eq_ok {ε' : Type} {g : ε → ε'} {x : Except ε α} {a : α} :
    x.mapError g = .ok a ↔ x = .ok a := by
  cases x <;> simp [Except.mapError]

theorem mapError_eq_error {ε' : Type} {g : ε → ε'} {x : Except ε α} {e : ε'} :
    x.mapError g = .error e ↔ ∃ e', x = .error e' ∧ g e' = e := by
  cases x <;> simp [Except.mapError]

end Result

/-! ## 2. Results of runs -/

namespace Reporting

variable {ε ε' α β : Type}

theorem result_bind_eq_ok {x : Reporting ε α} {f : α → Reporting ε β} {b : β} :
    (x >>= f).result = .ok b ↔ ∃ a, x.result = .ok a ∧ (f a).result = .ok b := by
  rw [result_bind, Result.bind_eq_ok]

theorem result_bind_eq_error {x : Reporting ε α} {f : α → Reporting ε β} {e : ε} :
    (x >>= f).result = .error e ↔
      x.result = .error e ∨ ∃ a, x.result = .ok a ∧ (f a).result = .error e := by
  rw [result_bind, Result.bind_eq_error]

theorem result_bind_of_ok {x : Reporting ε α} {a : α} (h : x.result = .ok a)
    (f : α → Reporting ε β) : (x >>= f).result = (f a).result := by
  rw [bind_of_ok h]

/-- A run that ends by changing its value. -/
theorem result_bind_pure (x : Reporting ε α) (f : α → β) :
    (x >>= fun a => pure (f a)).result = x.result.map f := by
  rw [result_bind]
  cases x.result <;> rfl

/-- The result of going through a list is that of going through the results. -/
theorem result_mapM (f : α → Reporting ε β) (xs : List α) :
    (xs.mapM f).result = xs.mapM fun x => (f x).result := by
  induction xs with
  | nil => rfl
  | cons x xs ih => simp only [List.mapM_cons, result_bind, ih, result_pure]; rfl

theorem result_mapM_eq_ok {f : α → Reporting ε β} {xs : List α} {ys : List β} :
    (xs.mapM f).result = .ok ys ↔ List.Forall₂ (fun x y => (f x).result = .ok y) xs ys := by
  rw [result_mapM, Result.mapM_eq_ok]

/-- Going through a list succeeds exactly if every step does. -/
theorem exists_result_mapM {f : α → Reporting ε β} {xs : List α} :
    (∃ ys, (xs.mapM f).result = .ok ys) ↔ ∀ x ∈ xs, ∃ y, (f x).result = .ok y := by
  simp only [result_mapM_eq_ok, Result.exists_forall₂]

theorem result_mapM_eq_error {f : α → Reporting ε β} {xs : List α} {e : ε} :
    (xs.mapM f).result = .error e ↔ ∃ before x after, xs = before ++ x :: after ∧
      (∀ y ∈ before, ∃ b, (f y).result = .ok b) ∧ (f x).result = .error e := by
  rw [result_mapM, Result.mapM_eq_error]

/-! ## 3. The errors of a run -/

/-- `OnlyFails P x`: if `x` fails, its error meets `P`. -/
def OnlyFails (P : ε → Prop) (x : Reporting ε α) : Prop := ∀ e, x.result = .error e → P e

variable {P : ε → Prop}

theorem onlyFails_pure (a : α) : OnlyFails P (pure a : Reporting ε α) := by
  intro e h
  cases h

theorem onlyFails_warn (text : String) : OnlyFails P (warn text : Reporting ε Unit) := by
  intro e h
  cases h

theorem onlyFails_throw {e : ε} (h : P e) : OnlyFails P (throw e : Reporting ε α) := by
  intro e' he
  cases he
  exact h

theorem OnlyFails.bind {x : Reporting ε α} {f : α → Reporting ε β} (hx : OnlyFails P x)
    (hf : ∀ a, OnlyFails P (f a)) : OnlyFails P (x >>= f) := by
  intro e h
  rcases result_bind_eq_error.mp h with h | ⟨a, -, h⟩
  · exact hx e h
  · exact hf a e h

theorem onlyFails_mapM {f : α → Reporting ε β} {xs : List α}
    (h : ∀ x ∈ xs, OnlyFails P (f x)) : OnlyFails P (xs.mapM f) := by
  intro e he
  obtain ⟨before, x, after, rfl, -, hx⟩ := result_mapM_eq_error.mp he
  exact h x (by simp) e hx

theorem OnlyFails.mapError {Q : ε' → Prop} {x : Reporting ε α} {g : ε → ε'}
    (hx : OnlyFails P x) (hg : ∀ e, P e → Q (g e)) : OnlyFails Q (x.mapError g) := by
  intro e h
  obtain ⟨e', he', rfl⟩ := Result.mapError_eq_error.mp h
  exact hg e' (hx e' he')

end Reporting

end Reshape
