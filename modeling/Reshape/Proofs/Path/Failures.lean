/-
# Where a path fails

A path fails at a `*` that meets something other than an array.  The `*` may be the first of the
path, or it may stand behind others, which have taken an array apart each; of the items of such an
array it is the first one on which the rest of the path fails that fails the whole.  `Meets` follows
the path to that place, and resolution fails nowhere else (`outcome_eq_error_iff`).

Behind a `*` the rest of a path is resolved as a path of its own, so a failure names what stands
behind the last `*` before the one at which it arises (`leg`).  That is the whole path, with all the
segments before the `*`, exactly if there is no `*` before it.

Main statement: `resolve_failure`.
-/
import Reshape.Error
import Reshape.Proofs.Path.Composition

namespace Reshape.Path

open Reporting

variable {whole before front rest : List String} {segment : String} {c : Option Json}
  {t v : Json} {f : Failure}

/-! ## 1. The value at a `*` -/

/-- Following `front`, in front of a `*` with `rest` behind it, leads to a value.  Each `*` on the
way takes an array to the first of its items on which what stands behind it fails. -/
inductive Meets (rest : List String) (v : Json) : List String → Json → Prop
  | here : Meets rest v [] v
  | empty {front : List String} {t : Json} (h : Meets rest v front t) :
      Meets rest v ("" :: front) t
  | child {front : List String} {segment : String} {t w : Json} (he : segment ≠ "")
      (hw : segment ≠ wildcard) (hc : Child segment t w) (h : Meets rest v front w) :
      Meets rest v (segment :: front) t
  | item {front : List String} {passed after : List Json} {x : Json}
      (hp : ∀ y ∈ passed, ∃ found, outcome ⟨front ++ wildcard :: rest⟩ y = .ok found)
      (h : Meets rest v front x) :
      Meets rest v (wildcard :: front) (.arr (passed ++ x :: after))

/-- A `*` fails on values that are there and are no arrays. -/
def Unlisted (v : Json) : Prop := v ≠ .null ∧ ∀ xs, v ≠ .arr xs

/-- Null leads to null. -/
theorem Meets.ne_null (h : Meets rest v front t) (hv : v ≠ .null) : t ≠ .null := by
  induction h with
  | here => exact hv
  | empty _ ih => exact ih
  | child _ _ hc => rintro rfl; cases hc
  | item => rintro ⟨⟩

/-! ## 2. What a failure names -/

/-- The segments behind the last `*`; all of them, if there is none. -/
def leg : List String → List String
  | [] => []
  | segment :: rest =>
    if wildcard ∈ rest then leg rest
    else if segment = wildcard then rest
    else segment :: rest

theorem leg_of_not_mem (h : wildcard ∉ front) : leg front = front := by
  cases front with
  | nil => rfl
  | cons segment front =>
    simp only [List.mem_cons, not_or] at h
    rw [leg, if_neg h.2, if_neg fun e => h.1 e.symm]

theorem leg_cons_of_mem (h : wildcard ∈ front) : leg (segment :: front) = leg front := by
  rw [leg, if_pos h]

theorem leg_cons_wildcard : leg (wildcard :: front) = leg front := by
  by_cases h : wildcard ∈ front
  · exact leg_cons_of_mem h
  · rw [leg, if_neg h, if_pos rfl, leg_of_not_mem h]

/-- In front of a leg stands nothing, or a `*`. -/
theorem exists_outer (front : List String) : ∃ outer, front = outer ++ leg front ∧
    wildcard ∉ leg front ∧ (outer = [] ∨ outer.getLast? = some wildcard) := by
  induction front with
  | nil => exact ⟨[], rfl, by simp [leg], .inl rfl⟩
  | cons segment front ih =>
    by_cases h : wildcard ∈ front
    · obtain ⟨outer, hfront, hleg, hlast⟩ := ih
      have hne : outer ≠ [] := by
        rintro rfl
        have hself : leg front = front := hfront.symm
        rw [hself] at hleg
        exact hleg h
      rw [leg_cons_of_mem h]
      refine ⟨segment :: outer, by rw [List.cons_append, ← hfront], hleg, .inr ?_⟩
      rw [List.getLast?_cons_of_ne_nil hne]
      exact hlast.resolve_left hne
    · by_cases hw : segment = wildcard
      · subst hw
        rw [leg_cons_wildcard, leg_of_not_mem h]
        exact ⟨[wildcard], rfl, h, .inr rfl⟩
      · have h' : wildcard ∉ segment :: front := by simpa using ⟨fun e => hw e.symm, h⟩
        rw [leg_of_not_mem h']
        exact ⟨[], rfl, h', .inl rfl⟩

/-- What is told of a failing `*` that has `front` before it, where `before` has been followed in
front of that. -/
def told (whole before front rest : List String) : Failure :=
  if wildcard ∈ front then ⟨leg front, ⟨leg front ++ wildcard :: rest⟩⟩
  else ⟨before ++ front, ⟨whole⟩⟩

/-- Whatever is told within a path of its own is told of its leg. -/
theorem told_self :
    told (front ++ wildcard :: rest) [] front rest =
      ⟨leg front, ⟨leg front ++ wildcard :: rest⟩⟩ := by
  rw [told]
  split
  · rfl
  · next h => rw [leg_of_not_mem h, List.nil_append]

theorem told_cons (hw : segment ≠ wildcard) :
    told whole before (segment :: front) rest = told whole (before ++ [segment]) front rest := by
  by_cases h : wildcard ∈ front
  · rw [told, told, if_pos h, if_pos (List.mem_cons_of_mem segment h), leg_cons_of_mem h]
  · have h' : wildcard ∉ segment :: front := by simpa using ⟨fun e => hw e.symm, h⟩
    rw [told, told, if_neg h, if_neg h', List.append_assoc]
    rfl

/-! ## 3. Failing -/

/-- **A path fails at the `*` that it follows to such a value.** -/
theorem result_resolveFrom_of_meets (h : Meets rest v front t) (hv : Unlisted v) :
    (resolveFrom whole before (front ++ wildcard :: rest) (some t)).result =
      .error (told whole before front rest) := by
  have hpresent : ∀ {front t}, Meets rest v front t → present (some t) = some t :=
    fun h => present_some (h.ne_null hv.1)
  induction h generalizing whole before with
  | here =>
    rw [List.nil_append, result_resolveFrom_wildcard_error (hpresent .here) hv.2, told,
      if_neg (by simp), List.append_nil]
  | empty h ih =>
    rw [List.cons_append, result_resolveFrom_empty (hpresent h), ih, told_cons (by decide)]
  | child he hw hc h ih =>
    have ht := hpresent (.child he hw hc h)
    rw [List.cons_append, result_resolveFrom_segment ht hw he, child?_eq_some_iff.mpr hc, ih,
      told_cons hw]
  | @item front passed after x hp h ih =>
    have hx : outcome ⟨front ++ wildcard :: rest⟩ x =
        .error ⟨leg front, ⟨leg front ++ wildcard :: rest⟩⟩ := by
      rw [← told_self]
      exact ih
    have hbehind : behind (front ++ wildcard :: rest) = ⟨front ++ wildcard :: rest⟩ := by
      cases front <;> rfl
    have hitems : (passed ++ x :: after).mapM ((behind (front ++ wildcard :: rest)).outcome ·) =
        .error ⟨leg front, ⟨leg front ++ wildcard :: rest⟩⟩ := by
      rw [hbehind]
      exact Result.mapM_eq_error.mpr ⟨passed, x, after, rfl, hp, hx⟩
    rw [List.cons_append, result_resolveFrom_wildcard, hitems, told, if_pos (by simp),
      leg_cons_wildcard]
    rfl

/-- By induction on the segments, up to the failing `*`. -/
theorem exists_meets {segments : List String}
    (h : (resolveFrom whole before segments c).result = .error f) :
    ∃ front rest t v, segments = front ++ wildcard :: rest ∧ present c = some t ∧
      Meets rest v front t ∧ Unlisted v := by
  induction segments generalizing whole before c f with
  | nil =>
    rw [resolveFrom] at h
    cases h
  | cons segment segments ih =>
    cases hc : present c with
    | none =>
      rw [result_resolveFrom_absent hc] at h
      cases h
    | some t =>
      have ht : t ≠ .null := (present_eq_some_iff.mp hc).2
      by_cases hw : segment = wildcard
      · subst hw
        by_cases hlist : ∃ xs, t = .arr xs
        · -- the first item on which the rest fails is where the path goes on
          obtain ⟨xs, rfl⟩ := hlist
          rw [← resolveFrom_present, hc, result_resolveFrom_wildcard, Result.map_eq_error,
            Result.mapM_eq_error] at h
          obtain ⟨passed, x, after, rfl, hp, hx⟩ := h
          cases segments with
          | nil =>
            have hok : (behind []).outcome x = .ok _ := result_resolveFrom_of_not_mem (by decide)
            rw [hok] at hx
            cases hx
          | cons next segments =>
            obtain ⟨front, rest, u, v, hs, hu, hm, hv⟩ := ih hx
            have hxu : x = u := Option.some.inj (present_eq_some_iff.mp hu).1
            subst hxu
            refine ⟨wildcard :: front, rest, _, v, by rw [hs]; rfl, rfl, .item ?_ hm, hv⟩
            rw [behind, hs] at hp
            exact hp
        · exact ⟨[], segments, t, t, rfl, rfl, .here, ht, fun xs e => hlist ⟨xs, e⟩⟩
      by_cases he : segment = ""
      · subst he
        rw [result_resolveFrom_empty hc] at h
        obtain ⟨front, rest, u, v, rfl, hu, hm, hv⟩ := ih h
        have htu : t = u := Option.some.inj (present_eq_some_iff.mp hu).1
        subst htu
        exact ⟨"" :: front, rest, t, v, rfl, rfl, .empty hm, hv⟩
      · rw [result_resolveFrom_segment hc hw he] at h
        obtain ⟨front, rest, u, v, rfl, hu, hm, hv⟩ := ih h
        have hchild : Child segment t u := child?_eq_some_iff.mp (present_eq_some_iff.mp hu).1
        exact ⟨segment :: front, rest, t, v, rfl, rfl, .child he hw hchild hm, hv⟩

/-- **Resolution fails exactly at a `*` on a value that is there and is no array**, and tells of the
leg of the path on which that is. -/
theorem outcome_eq_error_iff {p : Path} :
    p.outcome t = .error f ↔ ∃ front rest v, p.segments = front ++ wildcard :: rest ∧
      Meets rest v front t ∧ Unlisted v ∧ f = ⟨leg front, ⟨leg front ++ wildcard :: rest⟩⟩ := by
  have htold : ∀ {front rest v}, p.segments = front ++ wildcard :: rest → Meets rest v front t →
      Unlisted v → p.outcome t = .error ⟨leg front, ⟨leg front ++ wildcard :: rest⟩⟩ := by
    intro front rest v hp hm hv
    rw [outcome, resolve, hp, result_resolveFrom_of_meets hm hv, told_self]
  constructor
  · intro h
    obtain ⟨front, rest, u, v, hp, hu, hm, hv⟩ := exists_meets h
    have htu : t = u := Option.some.inj (present_eq_some_iff.mp hu).1
    subst htu
    exact ⟨front, rest, v, hp, hm, hv, Except.error.inj (h.symm.trans (htold hp hm hv))⟩
  · rintro ⟨front, rest, v, hp, hm, hv, rfl⟩
    exact htold hp hm hv

/-- **What a failure names.**  A path that fails meets a value that is no array at one of its stars.
The failure names the segments that stand before this `*` and behind the one before it, and the
path that begins with them.  So it names the whole path, and all the segments before the failing
`*`, exactly if that is the first of the path. -/
theorem resolve_failure {t : Json} {s : String} {f : Failure}
    (h : (ofString s).outcome t = .error f) :
    ∃ outer before rest v, (ofString s).segments = outer ++ before ++ wildcard :: rest ∧
      Meets rest v (outer ++ before) t ∧ Unlisted v ∧ wildcard ∉ before ∧
      (outer = [] ∨ outer.getLast? = some wildcard) ∧ f.before = before ∧
      f.path.segments = before ++ wildcard :: rest ∧ (f.path.text = s ↔ outer = []) := by
  obtain ⟨front, rest, v, hs, hm, hv, rfl⟩ := outcome_eq_error_iff.mp h
  obtain ⟨outer, hfront, hleg, hlast⟩ := exists_outer front
  generalize leg front = before at hfront hleg ⊢
  subst hfront
  refine ⟨outer, before, rest, v, hs, hm, hv, hleg, hlast, rfl, rfl, ?_⟩
  have hsplit : Text.split '/' (Text.join '/' (before ++ wildcard :: rest)) =
      before ++ wildcard :: rest := by
    refine Text.split_join (by simp) fun p hp => Text.not_mem_of_mem_split (s := s) ?_
    have hsub : p ∈ (ofString s).segments := by
      rw [hs, List.append_assoc]
      exact List.mem_append_right outer hp
    exact hsub
  constructor
  · intro htext
    have hsegments : before ++ wildcard :: rest = outer ++ (before ++ wildcard :: rest) := by
      rw [← List.append_assoc, ← hs, ← htext, ofString, text, hsplit]
    exact List.self_eq_append_left.mp hsegments
  · rintro rfl
    have hpath : (⟨before ++ wildcard :: rest⟩ : Path) = ofString s := congrArg Path.mk hs.symm
    rw [hpath, text_ofString]

/-- Rows of which the second has no list of tags. -/
def taggedRows : Json :=
  .obj [("rows", .arr [.obj [("tags", .arr [.int 1])], .obj [("tags", .str "x")]])]

theorem resolve_taggedRows_failure :
    (ofString "rows/*/tags/*").outcome taggedRows = .error ⟨["tags"], ⟨["tags", "*"]⟩⟩ ∧
    ∃ outer before rest v,
      (ofString "rows/*/tags/*").segments = outer ++ before ++ wildcard :: rest ∧
      Meets rest v (outer ++ before) taggedRows ∧ Unlisted v ∧ wildcard ∉ before ∧
      (outer = [] ∨ outer.getLast? = some wildcard) ∧ ["tags"] = before ∧
      ["tags", "*"] = before ++ wildcard :: rest ∧
      (Text.join '/' ["tags", "*"] = "rows/*/tags/*" ↔ outer = []) :=
  have h : (ofString "rows/*/tags/*").outcome taggedRows = .error ⟨["tags"], ⟨["tags", "*"]⟩⟩ := rfl
  ⟨h, resolve_failure h⟩

/-- Behind a `*` a failure names neither the path that was asked for nor all the segments before the
failing `*`. -/
theorem resolve_taggedRows_names :
    (ofString "rows/*/tags/*").outcome taggedRows = .error ⟨["tags"], ⟨["tags", "*"]⟩⟩ ∧
    Path.text ⟨["tags", "*"]⟩ ≠ "rows/*/tags/*" ∧ ["tags"] ≠ ["rows", "*", "tags"] ∧
    (Failure.message ⟨["tags"], ⟨["tags", "*"]⟩⟩ =
      "tags is not an array (while resolving \"tags/*\")") :=
  ⟨rfl, by decide, by decide, rfl⟩

end Reshape.Path
