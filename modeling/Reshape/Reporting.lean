/-
# Results with notices

Mapping a value either succeeds or fails, and on the way it may send notices: warnings about
values that were not found, and details for whoever watches the run.  A `Reporting ε α` holds
the result together with the notices sent so far, in order; a failure keeps the notices sent
before it.

Main statements: `Reporting` is a lawful monad, and `result_bind` and `notices_bind` say what
sequencing does to its two parts.
-/

namespace Reshape

/-- A message that does not end a run. -/
inductive Notice where
  /-- Something was absent or out of place, and was passed over. -/
  | warning (text : String)
  /-- A detail of what a part of the library, `area`, is doing. -/
  | detail (area text : String)
deriving DecidableEq, Repr

/-- The text of a warning. -/
def Notice.warning? : Notice → Option String
  | warning text => some text
  | detail _ _ => none

/-- A result, and the notices sent on the way to it. -/
structure Reporting (ε α : Type) where
  result : Except ε α
  notices : List Notice

namespace Reporting

variable {ε ε' α β γ : Type}

/-! ## 1. Sequencing -/

/-- A result without notices. -/
def ofExcept (r : Except ε α) : Reporting ε α := ⟨r, []⟩

/-- Sends a notice. -/
def send (n : Notice) : Reporting ε Unit := ⟨.ok (), [n]⟩

/-- Sends a warning. -/
def warn (text : String) : Reporting ε Unit := send (.warning text)

/-- Fails. -/
def fail (e : ε) : Reporting ε α := ⟨.error e, []⟩

/-- Continues with the value of a result; a failure ends the run. -/
def andThen (x : Reporting ε α) (f : α → Reporting ε β) : Reporting ε β :=
  match x.result with
  | .error e => ⟨.error e, x.notices⟩
  | .ok a => ⟨(f a).result, x.notices ++ (f a).notices⟩

instance : Monad (Reporting ε) where
  pure a := ⟨.ok a, []⟩
  bind := andThen

instance : MonadExceptOf ε (Reporting ε) where
  throw := fail
  tryCatch x handle :=
    match x.result with
    | .error e => ⟨(handle e).result, x.notices ++ (handle e).notices⟩
    | .ok _ => x

/-- The same run with another account of its failure. -/
def mapError (f : ε → ε') (x : Reporting ε α) : Reporting ε' α :=
  ⟨x.result.mapError f, x.notices⟩

/-- The texts of the warnings sent. -/
def warnings (x : Reporting ε α) : List String := x.notices.filterMap Notice.warning?

/-! ## 2. Laws -/

@[simp] theorem result_pure (a : α) : (pure a : Reporting ε α).result = .ok a := rfl

@[simp] theorem notices_pure (a : α) : (pure a : Reporting ε α).notices = [] := rfl

@[simp] theorem result_throw (e : ε) : (throw e : Reporting ε α).result = .error e := rfl

@[simp] theorem notices_throw (e : ε) : (throw e : Reporting ε α).notices = [] := rfl

@[simp] theorem result_bind (x : Reporting ε α) (f : α → Reporting ε β) :
    (x >>= f).result = x.result >>= fun a => (f a).result := by
  obtain ⟨r, ns⟩ := x
  cases r <;> rfl

theorem notices_bind (x : Reporting ε α) (f : α → Reporting ε β) :
    (x >>= f).notices =
      x.notices ++ match x.result with
        | .ok a => (f a).notices
        | .error _ => [] := by
  obtain ⟨r, ns⟩ := x
  cases r with
  | error e => exact (List.append_nil ns).symm
  | ok a => rfl

@[ext] theorem ext {x y : Reporting ε α} (hr : x.result = y.result)
    (hn : x.notices = y.notices) : x = y := by
  cases x; cases y; simp_all

theorem bind_of_ok {x : Reporting ε α} {a : α} (h : x.result = .ok a)
    (f : α → Reporting ε β) : x >>= f = ⟨(f a).result, x.notices ++ (f a).notices⟩ := by
  obtain ⟨r, ns⟩ := x
  subst h
  rfl

theorem bind_of_error {x : Reporting ε α} {e : ε} (h : x.result = .error e)
    (f : α → Reporting ε β) : x >>= f = ⟨.error e, x.notices⟩ := by
  obtain ⟨r, ns⟩ := x
  subst h
  rfl

instance : LawfulMonad (Reporting ε) := LawfulMonad.mk' (Reporting ε)
  (by
    intro α x
    obtain ⟨r, ns⟩ := x
    cases r with
    | error e => rfl
    | ok a => exact ext rfl (List.append_nil ns))
  (by intro α β a f; exact ext rfl rfl)
  (by
    intro α β γ x f g
    obtain ⟨r, ns⟩ := x
    cases r with
    | error e => rfl
    | ok a =>
      change andThen ⟨(f a).result, ns ++ (f a).notices⟩ g =
        ⟨(andThen (f a) g).result, ns ++ (andThen (f a) g).notices⟩
      obtain ⟨r', ms⟩ := f a
      cases r' with
      | error e => rfl
      | ok b => exact ext rfl (List.append_assoc ns ms (g b).notices))

end Reporting

end Reshape
