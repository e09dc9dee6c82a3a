/-
# What substitution leaves alone

Substitution writes the pieces of a template one by one and changes none but the slots of known
names.  A text without such slots is settled (`Settled`): it stays as it is
(`substitute_of_settled`).  So is a text in which no placeholder begins (`Unmarked.settled`).
Without parameters every text is settled, so `fill` need not have looked whether there are any
(`fill_str`).
-/
import Mathlib.Data.List.Basic
import Reshape.Template

namespace Reshape.Template

variable {params : Parameters}

/-- No placeholder of a known name stands in a text. -/
def Settled (params : Parameters) (t : String) : Prop :=
  ∀ name, .slot name ∈ pieces t.toList → params.get? (String.ofList name) = none

theorem render_eq_source {p : Piece}
    (h : ∀ name, p = .slot name → params.get? (String.ofList name) = none) :
    p.render params = p.source := by
  cases p with
  | text cs => rfl
  | slot name => rw [Piece.render, h name rfl]

/-- **A settled text stays as it is.** -/
theorem substitute_of_settled {t : String} (h : Settled params t) : substitute t params = t := by
  have hpieces : (pieces t.toList).flatMap (Piece.render params) =
      (pieces t.toList).flatMap Piece.source := by
    refine List.flatMap_congr fun p hp => render_eq_source ?_
    rintro name rfl
    exact h name hp
  rw [substitute, hpieces, source_pieces, String.ofList_toList]

/-- No placeholder begins in a text. -/
def Unmarked (t : String) : Prop := ¬['[', '%'] <:+: t.toList

theorem Unmarked.settled {t : String} (h : Unmarked t) : Settled params t := by
  intro name hname
  rw [pieces] at hname
  split at hname
  · simp at hname
  · next before inside hcut =>
    refine absurd ⟨before, inside, ?_⟩ h
    rw [cutAt_eq hcut]
    simp

theorem settled_nil (t : String) : Settled [] t := fun _ _ => rfl

theorem substitute_nil (t : String) : substitute t [] = t := substitute_of_settled (settled_nil t)

theorem fill_str (params : Parameters) (t : String) :
    fill params (.str t) = .str (substitute t params) := by
  cases params with
  | nil => rw [substitute_nil]; rfl
  | cons => rfl

theorem fill_nil (v : Json) : fill [] v = v := by
  cases v <;> rfl

end Reshape.Template
