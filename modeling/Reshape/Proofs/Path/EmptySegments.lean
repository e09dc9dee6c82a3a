/-
# Empty segments

An empty segment takes no step.  Paths that differ only in empty segments (`Path.Alike`) lead
from every value to the same, or fail both, and then their failures differ only in the empty
segments of what they tell (`Alike.agree_resolve`).

Whether a path ends in a `*` is not a question about its steps: `a/*` and `a/*/` are alike, and
only the first of them does.  `Path.AlikeAtEnd` asks for the same answer to it.
-/
import Reshape.Proofs.Agreement
import Reshape.Proofs.Path.Resolution

namespace Reshape.Path

open Reporting

/-! ## 1. Steps -/

/-- The segments that take a step: those that are not empty. -/
def proper (segments : List String) : List String := segments.filter fun s => s ≠ ""

/-- Two paths differ only in empty segments. -/
def Alike (p q : Path) : Prop := proper p.segments = proper q.segments

/-- Two failures differ only in the empty segments of what they tell. -/
structure Failure.Alike (f g : Failure) : Prop where
  before : proper f.before = proper g.before
  path : f.path.Alike g.path

/-- Two paths differ only in empty segments, and both of them end in a `*` or neither does. -/
structure AlikeAtEnd (p q : Path) : Prop where
  alike : p.Alike q
  atEnd : p.endsWithWildcard = q.endsWithWildcard

variable {whole whole' before before' rest : List String} {segment : String} {c : Option Json}

@[simp] theorem proper_append (a b : List String) : proper (a ++ b) = proper a ++ proper b :=
  List.filter_append a b

@[simp] theorem proper_proper (segments : List String) :
    proper (proper segments) = proper segments := by
  simp [proper]

theorem proper_cons_empty : proper ("" :: rest) = proper rest := rfl

theorem proper_cons (h : segment ≠ "") : proper (segment :: rest) = segment :: proper rest := by
  simp [proper, h]

/-- Slashes in front, at the end and in a row make empty segments and nothing else. -/
theorem alike_slashes (s t : String) :
    (ofString ("/" ++ s)).Alike (ofString s) ∧ (ofString (s ++ "/")).Alike (ofString s) ∧
      (ofString (s ++ "//" ++ t)).Alike (ofString (s ++ "/" ++ t)) := by
  have hempty : proper (ofString "").segments = [] := rfl
  have hslash : ∀ a b, (ofString (a ++ "/" ++ b)).segments =
      (ofString a).segments ++ (ofString b).segments := segments_ofString_append
  have hfront : "/" ++ s = "" ++ "/" ++ s := by rw [String.empty_append]
  have hend : s ++ "/" = s ++ "/" ++ "" := by rw [String.append_empty]
  have hrow : s ++ "//" ++ t = s ++ "/" ++ "" ++ "/" ++ t := by
    have hslashes : "//" = "/" ++ "/" := rfl
    rw [String.append_empty, hslashes, ← String.append_assoc]
  refine ⟨?_, ?_, ?_⟩
  · rw [hfront, Alike, hslash, proper_append, hempty, List.nil_append]
  · rw [hend, Alike, hslash, proper_append, hempty, List.append_nil]
  · rw [hrow, Alike, hslash, hslash, hslash, proper_append, proper_append, proper_append, hempty,
      List.append_nil]

/-! ## 2. Resolution -/

/-- The path behind a `*` need not be followed from its empty segment. -/
theorem outcome_behind (rest : List String) (x : Json) :
    (behind rest).outcome x = (resolveFrom (behind rest).segments [] rest (some x)).result := by
  cases rest with
  | nil =>
    have hw : wildcard ∉ [""] := by decide
    have hfollow : follow [""] (some x) = present (some x) := by
      cases hp : present (some x) with
      | none => exact follow_absent hp
      | some v =>
        have hv : present (some v) = some v := present_some (present_eq_some_iff.mp hp).2
        simp only [follow, hp, if_true, hv]
    have h : (behind []).outcome x = .ok (follow [""] (some x)) := result_resolveFrom_of_not_mem hw
    rw [h, hfollow]
    rfl
  | cons => rfl

theorem proper_behind (rest : List String) : proper (behind rest).segments = proper rest := by
  cases rest <;> rfl

/-- **Empty segments may be left out**, of the segments that are still to be followed and of
those of which a failure tells. -/
theorem agree_resolveFrom (rest : List String) (hw : proper whole = proper whole')
    (hb : proper before = proper before') (c : Option Json) :
    Agree Failure.Alike Eq (resolveFrom whole before rest c)
      (resolveFrom whole' before' (proper rest) c) := by
  induction rest generalizing whole whole' before before' c with
  | nil => exact .ok rfl
  | cons segment rest ih =>
    unfold Agree
    cases hc : present c with
    | none => rw [result_resolveFrom_absent hc, result_resolveFrom_absent hc]; exact .ok rfl
    | some v =>
      by_cases he : segment = ""
      · subst he
        rw [result_resolveFrom_empty hc, proper_cons_empty, ← resolveFrom_present (c := c), hc]
        exact ih hw (by simpa [proper] using hb) (some v)
      by_cases hs : segment = wildcard
      · subst hs
        rw [proper_cons he]
        by_cases hv : ∃ xs, v = .arr xs
        · -- behind the `*` each side resolves a path of its own, and these paths are alike
          obtain ⟨xs, rfl⟩ := hv
          have hitem : ∀ x, Agree Failure.Alike Eq ((behind rest).resolve x)
              ((behind (proper rest)).resolve x) := by
            intro x
            have h : Agree Failure.Alike Eq (resolveFrom (behind rest).segments [] rest (some x))
                (resolveFrom (behind (proper rest)).segments [] (proper rest) (some x)) :=
              ih (by simp [proper_behind]) rfl (some x)
            unfold Agree at h
            rwa [← outcome_behind, ← outcome_behind] at h
          have hitems := agree_mapM_same xs hitem
          unfold Agree at hitems
          rw [result_mapM, result_mapM] at hitems
          rw [← resolveFrom_present, ← resolveFrom_present (c := c), hc,
            result_resolveFrom_wildcard, result_resolveFrom_wildcard]
          exact hitems.map fun a b hab => by rw [hab]
        · have hv' : ∀ xs, v ≠ .arr xs := fun xs e => hv ⟨xs, e⟩
          rw [result_resolveFrom_wildcard_error hc hv', result_resolveFrom_wildcard_error hc hv']
          exact .error ⟨hb, hw⟩
      · rw [proper_cons he, result_resolveFrom_segment hc hs he,
          result_resolveFrom_segment hc hs he]
        exact ih hw (by simp [hb]) _

/-- **Paths that differ only in empty segments lead to the same.** -/
theorem Alike.agree_resolve {p q : Path} (h : p.Alike q) (t : Json) :
    Agree Failure.Alike Eq (p.resolve t) (q.resolve t) := by
  have hq : proper q.segments = proper (proper p.segments) := by rw [proper_proper]; exact h.symm
  have hq' : proper q.segments = proper p.segments := h.symm
  refine Agree.of_common (agree_resolveFrom p.segments (proper_proper _).symm rfl (some t)) ?_ ?_
  · rw [← hq']
    exact agree_resolveFrom q.segments (proper_proper _).symm rfl (some t)
  · rintro f g k ⟨hb, hp⟩ ⟨hb', hp'⟩
    exact ⟨hb.trans hb'.symm, Eq.trans hp (Eq.symm hp')⟩

end Reshape.Path
