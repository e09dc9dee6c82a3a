/-
# Placeholders between texts

A template is cut from the left: an opening mark belongs with the next closing mark.  So what
stands behind a text is cut as if it stood alone, unless the text leaves an opening mark open
(`Closed`, `LeavesOpen`).  A placeholder behind a closed text is replaced, whatever follows it.
Behind an open mark it is lost: the closing mark of the placeholder closes the open mark, and
what stands between the two is one long name.

Main statement: `substitute_placeholder`.
-/
import Reshape.Proofs.Template.Substitution

namespace Reshape.Template

variable {a b : Char} {cs before after name : List Char} {params : Parameters}

/-! ## 1. The first place to cut -/

theorem cutAt_cons_of_ne {c d : Char} (h : ¬(c = a ∧ d = b)) (cs : List Char) :
    cutAt a b (c :: d :: cs) = (cutAt a b (d :: cs)).map fun p => (c :: p.1, p.2) := by
  rw [cutAt, if_neg h]

/-- Two characters in a row stand at the start of a text, or further on. -/
theorem infix_cons_cons_iff {c d : Char} :
    [a, b] <:+: c :: d :: cs ↔ (c = a ∧ d = b) ∨ [a, b] <:+: d :: cs := by
  rw [List.infix_cons_iff, List.cons_prefix_cons, List.cons_prefix_cons]
  simp [eq_comm]

/-- Two characters in a row do not stand across a character that is not the second of them. -/
theorem not_infix_append_cons {c : Char} {rest : List Char} (hcs : ¬[a, b] <:+: cs) (hc : c ≠ b)
    (hrest : ¬[a, b] <:+: c :: rest) : ¬[a, b] <:+: cs ++ c :: rest := by
  induction cs with
  | nil => exact hrest
  | cons d cs ih =>
    cases cs with
    | nil =>
      rw [List.singleton_append, infix_cons_cons_iff, not_or]
      exact ⟨fun h => hc h.2, hrest⟩
    | cons e cs =>
      rw [infix_cons_cons_iff, not_or] at hcs
      rw [List.cons_append, List.cons_append, infix_cons_cons_iff, not_or]
      exact ⟨hcs.1, ih hcs.2⟩

/-- A text without the two characters is cut where they first stand behind it. -/
theorem cutAt_append (hab : a ≠ b) (h : ¬[a, b] <:+: before) (after : List Char) :
    cutAt a b (before ++ a :: b :: after) = some (before, after) := by
  induction before with
  | nil => simp [cutAt]
  | cons c before ih =>
    cases before with
    | nil =>
      have hc : ¬(c = a ∧ a = b) := fun hc => hab hc.2
      have hnil := ih (by simp)
      rw [List.nil_append] at hnil
      rw [List.singleton_append, cutAt_cons_of_ne hc, hnil]
      rfl
    | cons d before =>
      rw [infix_cons_cons_iff, not_or] at h
      have hrest := ih h.2
      rw [List.cons_append] at hrest
      rw [List.cons_append, List.cons_append, cutAt_cons_of_ne h.1, hrest]
      rfl

/-- A cut is made at the first place. -/
theorem not_infix_of_cutAt (h : cutAt a b cs = some (before, after)) : ¬[a, b] <:+: before := by
  induction cs generalizing before with
  | nil => simp [cutAt] at h
  | cons c cs ih =>
    cases cs with
    | nil => simp [cutAt] at h
    | cons d cs =>
      by_cases hc : c = a ∧ d = b
      · rw [cutAt, if_pos hc] at h
        cases h
        simp
      · rw [cutAt_cons_of_ne hc, Option.map_eq_some_iff] at h
        obtain ⟨⟨front, behind⟩, hcut, h⟩ := h
        cases h
        have hfront := ih hcut
        have heq := cutAt_eq hcut
        cases front with
        | nil => simp [List.infix_cons_iff]
        | cons e front =>
          obtain ⟨rfl, -⟩ := List.cons.inj heq
          rw [infix_cons_cons_iff, not_or]
          exact ⟨hc, hfront⟩

theorem cutAt_eq_none_iff : cutAt a b cs = none ↔ ¬[a, b] <:+: cs := by
  induction cs with
  | nil => simp [cutAt]
  | cons c cs ih =>
    cases cs with
    | nil => simp [cutAt, List.infix_cons_iff]
    | cons d cs =>
      rw [infix_cons_cons_iff]
      by_cases hc : c = a ∧ d = b
      · rw [cutAt, if_pos hc]
        simp [hc]
      · rw [cutAt_cons_of_ne hc, Option.map_eq_none_iff, ih]
        simp [hc]

/-! ## 2. Pieces of a text that goes on -/

theorem pieces_of_cut {inside : List Char} (h : cutAt '[' '%' cs = some (before, inside))
    (h' : cutAt '%' ']' inside = some (name, after)) :
    pieces cs = .text before :: .slot name :: pieces after := by
  rw [pieces]
  split
  · next hnone =>
    rw [hnone] at h
    cases h
  · next before' inside' hcut =>
    rw [hcut] at h
    cases h
    split
    · next hnone =>
      rw [hnone] at h'
      cases h'
    · next name' after' hcut' =>
      rw [hcut'] at h'
      cases h'
      rfl

/-- A text is one piece if no opening mark in it has a closing mark behind it. -/
theorem pieces_of_uncut (h : ∀ before inside, cutAt '[' '%' cs = some (before, inside) →
    cutAt '%' ']' inside = none) : pieces cs = [.text cs] := by
  rw [pieces]
  split
  · rfl
  · next before inside hcut =>
    split
    · rfl
    · next name after hcut' =>
      rw [h before inside hcut] at hcut'
      cases hcut'

/-- A text ends with a slot, or is empty: whatever follows is cut as if it stood alone. -/
structure EndsInSlot (cs : List Char) (front : List Piece) : Prop where
  pieces_append (more : List Char) : pieces (cs ++ more) = front ++ pieces more
  unmarked {ds : List Char} (h : .text ds ∈ front) : ¬['[', '%'] <:+: ds

theorem endsInSlot_nil : EndsInSlot [] [] := ⟨fun _ => rfl, fun h => by cases h⟩

/-- Behind the last slot of a text stands its last piece. -/
theorem exists_endsInSlot (cs : List Char) :
    ∃ front ps rest, cs = front ++ rest ∧ EndsInSlot front ps ∧ pieces rest = [.text rest] := by
  fun_induction pieces cs with
  | case1 cs h =>
    have hlone : pieces cs = [.text cs] := pieces_of_uncut fun before inside hcut => by
      rw [h] at hcut
      cases hcut
    exact ⟨[], [], cs, rfl, endsInSlot_nil, hlone⟩
  | case2 cs before inside h h' =>
    have hlone : pieces cs = [.text cs] := pieces_of_uncut fun before' inside' hcut => by
      rw [h] at hcut
      cases hcut
      exact h'
    exact ⟨[], [], cs, rfl, endsInSlot_nil, hlone⟩
  | case3 cs before inside h name after h' ih =>
    obtain ⟨front, ps, rest, rfl, hfront, hlone⟩ := ih
    have hunmarked := not_infix_of_cutAt h
    have hunclosed := not_infix_of_cutAt h'
    refine ⟨before ++ '[' :: '%' :: (name ++ '%' :: ']' :: front), .text before :: .slot name :: ps,
      rest, ?_, ⟨fun more => ?_, ?_⟩, hlone⟩
    · rw [cutAt_eq h, cutAt_eq h']
      simp
    · have hopen := cutAt_append (by decide) hunmarked (name ++ '%' :: ']' :: (front ++ more))
      have hclose := cutAt_append (by decide) hunclosed (front ++ more)
      have hcut := pieces_of_cut hopen hclose
      rw [hfront.pieces_append] at hcut
      simpa using hcut
    · intro ds hds
      rcases List.mem_cons.mp hds with hds | hds
      · cases hds
        exact hunmarked
      · rcases List.mem_cons.mp hds with hds | hds
        · cases hds
        · exact hfront.unmarked hds

/-! ## 3. Open marks -/

/-- A text leaves no opening mark open: none stands outside its slots. -/
def Closed (t : String) : Prop := ∀ ds, .text ds ∈ pieces t.toList → ¬['[', '%'] <:+: ds

/-- The text of a piece that is no slot. -/
def Piece.text? : Piece → Option (List Char)
  | text cs => some cs
  | slot _ => none

theorem closed_of_pieces {t : String}
    (h : ∀ ds ∈ (pieces t.toList).filterMap Piece.text?, ¬['[', '%'] <:+: ds) : Closed t :=
  fun ds hds => h ds (List.mem_filterMap.mpr ⟨.text ds, hds, rfl⟩)

/-- A text leaves an opening mark open: there is no closing mark in what stands behind it. -/
structure LeavesOpen (t before inside : String) : Prop where
  text : t = before ++ "[%" ++ inside
  closed : Closed before
  unclosed : ¬['%', ']'] <:+: inside.toList

theorem closed_iff {t : String} {front rest : List Char} {ps : List Piece}
    (ht : t.toList = front ++ rest) (hfront : EndsInSlot front ps)
    (hrest : pieces rest = [.text rest]) : Closed t ↔ ¬['[', '%'] <:+: rest := by
  rw [Closed, ht, hfront.pieces_append, hrest]
  constructor
  · intro hall
    exact hall rest (by simp)
  · intro hunmarked ds hds
    rcases List.mem_append.mp hds with hds | hds
    · exact hfront.unmarked hds
    · rw [List.mem_singleton] at hds
      cases hds
      exact hunmarked

theorem pieces_of_unmarked (h : ¬['[', '%'] <:+: cs) : pieces cs = [.text cs] := by
  refine pieces_of_uncut fun before inside hcut => ?_
  rw [cutAt_eq_none_iff.mpr h] at hcut
  cases hcut

/-- A text is closed, or it leaves a mark open. -/
theorem closed_or_leavesOpen (t : String) :
    Closed t ∨ ∃ before inside, LeavesOpen t before inside := by
  obtain ⟨front, ps, rest, ht, hfront, hrest⟩ := exists_endsInSlot t.toList
  cases hopen : cutAt '[' '%' rest with
  | none => exact .inl ((closed_iff ht hfront hrest).mpr (cutAt_eq_none_iff.mp hopen))
  | some p =>
    obtain ⟨before, inside⟩ := p
    have hunmarked := not_infix_of_cutAt hopen
    have hclosed : Closed (String.ofList (front ++ before)) :=
      (closed_iff (by simp) hfront (pieces_of_unmarked hunmarked)).mpr hunmarked
    refine .inr ⟨String.ofList (front ++ before), String.ofList inside, ?_, hclosed, ?_⟩
    · rw [← String.toList_inj, ht, cutAt_eq hopen]
      simp
    · rw [String.toList_ofList, ← cutAt_eq_none_iff]
      cases hclose : cutAt '%' ']' inside with
      | none => rfl
      | some q =>
        rw [pieces_of_cut hopen hclose] at hrest
        simp at hrest

/-! ## 4. Placeholders -/

/-- What becomes of a slot. -/
def slotText (params : Parameters) (name : String) : String :=
  ((params.get? name).map Text.lowercase).getD ("[%" ++ name ++ "%]")

theorem render_slot (params : Parameters) (name : String) :
    Piece.render params (.slot name.toList) = (slotText params name).toList := by
  rw [Piece.render, slotText, String.ofList_toList]
  cases params.get? name with
  | none => simp [Piece.source]
  | some value => rfl

/-- A slot behind a closed text is a piece, and what stands behind it is cut as if it stood
alone. -/
theorem pieces_slot {u name : String} (hu : Closed u) (hn : ¬['%', ']'] <:+: name.toList)
    (w : String) :
    pieces (u ++ "[%" ++ name ++ "%]" ++ w).toList =
      pieces u.toList ++ .slot name.toList :: pieces w.toList := by
  obtain ⟨front, ps, rest, ht, hfront, hrest⟩ := exists_endsInSlot u.toList
  have hunmarked := (closed_iff ht hfront hrest).mp hu
  have hopen : cutAt '[' '%' (rest ++ '[' :: '%' :: (name.toList ++ '%' :: ']' :: w.toList)) =
      some (rest, name.toList ++ '%' :: ']' :: w.toList) := cutAt_append (by decide) hunmarked _
  have hclose : cutAt '%' ']' (name.toList ++ '%' :: ']' :: w.toList) =
      some (name.toList, w.toList) := cutAt_append (by decide) hn _
  have htext : (u ++ "[%" ++ name ++ "%]" ++ w).toList =
      front ++ (rest ++ '[' :: '%' :: (name.toList ++ '%' :: ']' :: w.toList)) := by
    simp [ht]
  rw [htext, ht, hfront.pieces_append, hfront.pieces_append, pieces_of_cut hopen hclose, hrest]
  simp

/-- **A slot behind a closed text** is written by itself, and so is what stands behind it. -/
theorem substitute_slot {u name : String} (hu : Closed u) (hn : ¬['%', ']'] <:+: name.toList)
    (w : String) (params : Parameters) :
    substitute (u ++ "[%" ++ name ++ "%]" ++ w) params =
      substitute u params ++ slotText params name ++ substitute w params := by
  rw [substitute, pieces_slot hu hn]
  simp [substitute, render_slot, String.append_assoc]

/-- Behind an opening mark that stays open, a text is as it was. -/
theorem substitute_of_leavesOpen {t before inside : String} (h : LeavesOpen t before inside)
    (params : Parameters) :
    substitute t params = substitute before params ++ "[%" ++ inside := by
  obtain ⟨rfl, hbefore, hunclosed⟩ := h
  obtain ⟨front, ps, rest, ht, hfront, hrest⟩ := exists_endsInSlot before.toList
  have hunmarked := (closed_iff ht hfront hrest).mp hbefore
  have hlone : pieces (rest ++ '[' :: '%' :: inside.toList) =
      [.text (rest ++ '[' :: '%' :: inside.toList)] := by
    refine pieces_of_uncut fun before' inside' hcut => ?_
    rw [cutAt_append (by decide) hunmarked] at hcut
    cases hcut
    exact cutAt_eq_none_iff.mpr hunclosed
  have htext : (before ++ "[%" ++ inside).toList =
      front ++ (rest ++ '[' :: '%' :: inside.toList) := by
    simp [ht]
  rw [substitute, substitute, htext, ht, hfront.pieces_append, hfront.pieces_append, hlone, hrest,
    ← String.toList_inj]
  simp [Piece.render]

/-- **Where a placeholder of a known name is replaced.**  The name has no closing bracket.
Behind a text that leaves no opening mark open the parameter stands for it, in lower case,
between what the text and what the rest come to by themselves.  Behind a text that leaves a mark
open the placeholder is not seen: its closing mark closes the open mark, and the parameter of the
long name between them, if there is one, stands for all of it.  Every text is of one of these two
forms. -/
theorem substitute_placeholder {params : Parameters} {name value : String}
    (hv : params.get? name = some value) (hn : ']' ∉ name.toList) (u w : String) :
    (Closed u → substitute (u ++ "[%" ++ name ++ "%]" ++ w) params =
      substitute u params ++ Text.lowercase value ++ substitute w params) ∧
    (∀ before inside, LeavesOpen u before inside →
      substitute u params = substitute before params ++ "[%" ++ inside ∧
      substitute (u ++ "[%" ++ name ++ "%]" ++ w) params =
        substitute before params ++ slotText params (inside ++ "[%" ++ name) ++
          substitute w params) ∧
    (Closed u ∨ ∃ before inside, LeavesOpen u before inside) := by
  refine ⟨fun hu => ?_, fun before inside hu => ⟨substitute_of_leavesOpen hu params, ?_⟩,
    closed_or_leavesOpen u⟩
  · have hunclosed : ¬['%', ']'] <:+: name.toList := fun h => hn (h.subset (by simp))
    rw [substitute_slot hu hunclosed, slotText, hv]
    rfl
  · obtain ⟨rfl, hbefore, hinside⟩ := hu
    have hmark : ¬['%', ']'] <:+: '[' :: '%' :: name.toList := by
      intro h
      have hmem : ']' ∈ '[' :: '%' :: name.toList := h.subset (by simp)
      exact hn (by simpa using hmem)
    have hunclosed : ¬['%', ']'] <:+: (inside ++ "[%" ++ name).toList := by
      have hacross := not_infix_append_cons hinside (by decide) hmark
      simpa using hacross
    have hslot := substitute_slot hbefore hunclosed w params
    simpa only [String.append_assoc] using hslot

theorem emailKey_replaced :
    Entries.get? "key" [("key", "Email"), (" for [%key", "Open")] = some "Email" ∧
    ']' ∉ "key".toList ∧
    Closed "[%x[%%] 5%] [" ∧ LeavesOpen "[%x%][[% for " "[%x%][" " for " ∧
    substitute ("[%x[%%] 5%] [" ++ "[%" ++ "key" ++ "%]" ++ "[%key%")
      [("key", "Email"), (" for [%key", "Open")] = "[%x[%%] 5%] [email[%key%" ∧
    substitute ("[%x%][[% for " ++ "[%" ++ "key" ++ "%]" ++ "[%key%]")
      [("key", "Email"), (" for [%key", "Open")] = "[%x%][openemail" := by
  have hv : Entries.get? "key" [("key", "Email"), (" for [%key", "Open")] = some "Email" := by
    decide +kernel
  have hn : ']' ∉ "key".toList := by decide +kernel
  have hclosed : Closed "[%x[%%] 5%] [" := closed_of_pieces (by decide +kernel)
  have hopen : LeavesOpen "[%x%][[% for " "[%x%][" " for " :=
    ⟨by decide +kernel, closed_of_pieces (by decide +kernel), by decide +kernel⟩
  obtain ⟨hbehind, -, -⟩ := substitute_placeholder hv hn "[%x[%%] 5%] [" "[%key%"
  obtain ⟨-, hlost, -⟩ := substitute_placeholder hv hn "[%x%][[% for " "[%key%]"
  refine ⟨hv, hn, hclosed, hopen, ?_, ?_⟩
  · rw [hbehind hclosed]
    decide +kernel
  · rw [(hlost _ _ hopen).2]
    decide +kernel

/-- **An open mark hides a placeholder.**  Behind a text that ends with an opening mark the
placeholder of a known name stays as it is. -/
theorem substitute_behind_openMark :
    Entries.get? "a" [("a", "x")] = some "x" ∧
    (∀ c ∈ "a".toList, c ≠ '[' ∧ c ≠ '%' ∧ c ≠ ']') ∧
    substitute ("[%" ++ "[%" ++ "a" ++ "%]" ++ "") [("a", "x")] = "[%[%a%]" ∧
    substitute "[%" [("a", "x")] ++ Text.lowercase "x" ++ substitute "" [("a", "x")] = "[%x" := by
  have hname : "a".toList = ['a'] := rfl
  refine ⟨by decide +kernel, ?_, by decide +kernel, by decide +kernel⟩
  rw [hname]
  simp

end Reshape.Template
