/-
# Texts within values

`AllTexts P v` says that every text in a value meets `P`, keys aside.  What a path leads to has
no other texts than the value that it starts from (`follows_allTexts`).
-/
import Reshape.Proofs.Path.Congruence

namespace Reshape

/-- Every text in a value meets `P`. -/
inductive Json.AllTexts (P : String → Prop) : Json → Prop
  | null : AllTexts P .null
  | bool (b : Bool) : AllTexts P (.bool b)
  | int (n : Int) : AllTexts P (.int n)
  | float (x : Binary64) : AllTexts P (.float x)
  | str {s : String} (h : P s) : AllTexts P (.str s)
  | arr {items : List Json} (h : ∀ v ∈ items, AllTexts P v) : AllTexts P (.arr items)
  | obj {es : Entries Json} (h : ∀ e ∈ es, AllTexts P e.2) : AllTexts P (.obj es)

variable {P : String → Prop}

theorem Json.AllTexts.candidates {v c : Json} (h : v.AllTexts P) (hc : c ∈ v.candidates) :
    c.AllTexts P := by
  cases v with
  | arr items =>
    cases h with
    | arr hs => exact hs c hc
  | _ =>
    cases List.mem_singleton.mp hc
    exact h

/-- Paths stay within the texts of a value. -/
theorem Path.follows_allTexts : Follows fun v w => v = w ∧ v.AllTexts P where
  shape h := by
    obtain ⟨rfl, h⟩ := h
    cases h with
    | null => exact .null
    | bool b => exact .bool b b
    | int n => exact .int n n
    | float x => exact .float x x
    | @str s _ => exact .str s s
    | arr hs => exact .arr (List.forall₂_same.mpr fun v hv => ⟨rfl, hs v hv⟩)
    | @obj es hes =>
      refine .obj fun key => ?_
      cases hget : Entries.get? key es with
      | none => exact .none
      | some v => exact .some ⟨rfl, hes _ (Entries.mem_of_get? hget)⟩
  null := ⟨rfl, .null⟩
  arr h := by
    obtain ⟨hall, heq⟩ := (List.forall₂_and_left _ _).mp ((h.imp fun v w hvw => ⟨hvw.2, hvw.1⟩))
    rw [List.forall₂_eq_eq_eq] at heq
    exact ⟨congrArg _ heq, .arr hall⟩

end Reshape
