/-
# Paths compose

Resolving a path written from parts is resolving the parts one after the other.  The parts are
texts, put together with slashes; the front part has no `*`.

* Behind the front part a path goes on from what that part leads to.
* A `*` behind it takes what it leads to apart, if that is an array: every item is resolved
  along the rest, in order, and the first failure is the failure of the whole (`Expands`).
* A path of one segment takes a child (`Child`): the value under a key of an object, or the
  item of an array whose number the segment writes (`WritesNumber`).

Main statement: `resolve_compositional`.  Both relations are said without the resolver.
-/
import Reshape.Proofs.Path.Resolution

namespace Reshape.Path

/-! ## 1. Numbers in segments -/

/-- The value of a decimal digit. -/
def digitValue (c : Char) : Nat := c.toNat - '0'.toNat

/-- The number that digits write in positional notation, the most significant one first. -/
def positional : List Char → Nat
  | [] => 0
  | c :: cs => digitValue c * Nat.pow 10 cs.length + positional cs

/-- A segment writes a number: decimal digits, at least one, with or without a plus in
front. -/
def WritesNumber (segment : String) (n : Nat) : Prop :=
  ∃ digits : List Char, digits ≠ [] ∧ (∀ c ∈ digits, c.isDigit = true) ∧
    (segment.toList = digits ∨ segment.toList = '+' :: digits) ∧ n = positional digits

/-- Reading digits one after the other is reading them in positional notation. -/
theorem decimal_eq_positional (digits : List Char) :
    Text.decimal digits = positional digits := by
  have hfrom : ∀ acc, digits.foldl (fun n c => 10 * n + digitValue c) acc =
      acc * Nat.pow 10 digits.length + positional digits := by
    induction digits with
    | nil =>
      intro acc
      simp [positional]
    | cons c cs ih =>
      intro acc
      have hpow : Nat.pow 10 (c :: cs).length = Nat.pow 10 cs.length * 10 := rfl
      rw [List.foldl_cons, ih, positional, hpow, Nat.add_mul, Nat.add_assoc,
        Nat.mul_comm (Nat.pow 10 cs.length) 10, Nat.mul_comm 10 acc, Nat.mul_assoc]
  have h := hfrom 0
  rw [Nat.zero_mul, Nat.zero_add] at h
  exact h

/-- Characters without a plus in front. -/
def unsigned : List Char → List Char
  | '+' :: cs => cs
  | cs => cs

theorem unsigned_eq_iff {cs digits : List Char} (hd : ∀ c ∈ digits, c.isDigit = true) :
    unsigned cs = digits ↔ cs = digits ∨ cs = '+' :: digits := by
  constructor
  · intro h
    unfold unsigned at h
    split at h
    · exact Or.inr (by rw [h])
    · exact Or.inl h
  · rintro (rfl | rfl)
    · unfold unsigned
      split
      · exact absurd (hd '+' (by simp)) (by decide)
      · rfl
    · rfl

theorem index?_eq (segment : String) :
    index? segment =
      if (unsigned segment.toList).isEmpty || !(unsigned segment.toList).all Char.isDigit then none
      else some (Text.decimal (unsigned segment.toList)) := rfl

/-- **A segment is read as a number exactly when it writes it.** -/
theorem index?_eq_some_iff {segment : String} {n : Nat} :
    index? segment = some n ↔ WritesNumber segment n := by
  rw [index?_eq]
  generalize hu : unsigned segment.toList = digits
  constructor
  · intro h
    by_cases hc : (digits.isEmpty || !digits.all Char.isDigit) = true
    · rw [if_pos hc] at h
      cases h
    · rw [if_neg hc, Option.some.injEq] at h
      have hd : digits ≠ [] ∧ ∀ c ∈ digits, c.isDigit = true := by simpa using hc
      refine ⟨digits, hd.1, hd.2, (unsigned_eq_iff hd.2).mp hu, ?_⟩
      rw [← h, decimal_eq_positional]
  · rintro ⟨digits', hne, hd, hs, rfl⟩
    have he : digits = digits' := by rw [← hu]; exact (unsigned_eq_iff hd).mpr hs
    subst he
    have hc : ¬(digits.isEmpty || !digits.all Char.isDigit) = true := by
      simpa [hne] using hd
    rw [if_neg hc, decimal_eq_positional]

/-! ## 2. Children -/

/-- What a segment takes from a value. -/
inductive Child (segment : String) : Json → Json → Prop
  | key {entries : List (String × Json)} {v : Json}
      (h : Entries.get? segment entries = some v) : Child segment (.obj entries) v
  | item {items : List Json} {n : Nat} {v : Json} (hn : WritesNumber segment n)
      (h : items[n]? = some v) : Child segment (.arr items) v

theorem child?_eq_some_iff {segment : String} {t v : Json} :
    child? segment t = some v ↔ Child segment t v := by
  constructor
  · intro h
    cases t with
    | arr items =>
      obtain ⟨n, hn, hv⟩ := Option.bind_eq_some_iff.mp h
      exact .item (index?_eq_some_iff.mp hn) hv
    | obj entries => exact .key h
    | _ => cases h
  · rintro (h | ⟨hn, h⟩)
    · exact h
    · exact Option.bind_eq_some_iff.mpr ⟨_, index?_eq_some_iff.mpr hn, h⟩

/-- A path of one segment leads to the child under it, unless that is null. -/
theorem outcome_of_segment {s : String} {t : Json} (hs : '/' ∉ s.toList) (he : s ≠ "")
    (hw : s ≠ wildcard) :
    ∃ found, (ofString s).outcome t = .ok found ∧
      ∀ v, found = some v ↔ v ≠ .null ∧ Child s t v := by
  have hp : (ofString s).segments = [s] := by
    simp [ofString, Text.split, Text.splitChars_of_not_mem hs]
  have hn : wildcard ∉ [s] := by simpa using fun e => hw e.symm
  refine ⟨follow [s] (some t), ?_, ?_⟩
  · rw [outcome, resolve, hp]
    exact result_resolveFrom_of_not_mem hn
  · intro v
    by_cases ht : t = .null
    · subst ht
      rw [follow_absent present_null]
      constructor
      · intro h
        cases h
      · rintro ⟨-, h⟩
        cases h
    · simp only [follow, present_some ht, he, if_false, present_eq_some_iff, child?_eq_some_iff]
      exact and_comm

/-! ## 3. A `*` -/

/-- What becomes of a `*` and the path `q` behind it where `found` has been reached.  Nothing
stays nothing, and a value that is no array is a failure.  An array becomes the array of what
`q` leads to from each of its items, with null where that is nothing; the first item on which
`q` fails is the failure. -/
inductive Expands (q : Path) : Option Json → Except Failure (Option Json) → Prop
  | absent : Expands q none (.ok none)
  | notArray {v : Json} {f : Failure} (h : ∀ xs, v ≠ .arr xs) : Expands q (some v) (.error f)
  | items {xs ys : List Json}
      (h : List.Forall₂ (fun x y => ∃ found, q.outcome x = .ok found ∧ y = found.getD .null)
        xs ys) :
      Expands q (some (.arr xs)) (.ok (some (.arr ys)))
  | failed {before after : List Json} {x : Json} {f : Failure}
      (hb : ∀ y ∈ before, ∃ found, q.outcome y = .ok found) (hx : q.outcome x = .error f) :
      Expands q (some (.arr (before ++ x :: after))) (.error f)

theorem expands_behind {whole before rest : List String} {found : Option Json}
    (hp : present found = found) :
    Expands (behind rest) found
      (resolveFrom whole before (wildcard :: rest) found).result := by
  cases found with
  | none => rw [result_resolveFrom_absent hp]; exact .absent
  | some v =>
    by_cases hv : ∃ xs, v = .arr xs
    · obtain ⟨xs, rfl⟩ := hv
      rw [result_resolveFrom_wildcard]
      cases hm : xs.mapM ((behind rest).outcome ·) with
      | ok founds =>
        refine .items ?_
        rw [List.forall₂_map_right_iff]
        exact (Result.mapM_eq_ok.mp hm).imp fun x found h => ⟨found, h, rfl⟩
      | error f =>
        obtain ⟨front, x, after, rfl, hok, hx⟩ := Result.mapM_eq_error.mp hm
        exact .failed hok hx
    · have hv' : ∀ xs, v ≠ .arr xs := fun xs e => hv ⟨xs, e⟩
      rw [result_resolveFrom_wildcard_error hp hv']
      exact .notArray hv'

/-! ## 4. Paths put together -/

/-- What a path comes to behind segments that lead to `found`. -/
def goOn (front : Path) (q : Path) : Option Json → Except Failure (Option Json)
  | none => .ok none
  | some v => (q.outcome v).mapError (Failure.after front.segments q)

variable {front q : Path}

theorem outcome_append (hf : wildcard ∉ front.segments) (t : Json) :
    outcome ⟨front.segments ++ q.segments⟩ t =
      goOn front q (follow front.segments (some t)) := by
  rw [outcome, resolve, result_resolveFrom_append hf, List.nil_append]
  cases hv : follow front.segments (some t) with
  | none => rw [result_resolveFrom_absent present_none]; rfl
  | some v =>
    have h : (resolveFrom (front.segments ++ q.segments) (front.segments ++ []) q.segments
        (some v)).result = (q.resolve v).result.mapError (Failure.after front.segments q) :=
      result_resolveFrom_front front.segments rfl
    rw [List.append_nil] at h
    exact h

theorem outcome_append_wildcard (hf : wildcard ∉ front.segments) (rest : List String)
    (t : Json) :
    Expands (behind rest) (follow front.segments (some t))
      (outcome ⟨front.segments ++ wildcard :: rest⟩ t) := by
  rw [outcome, resolve, result_resolveFrom_append hf]
  exact expands_behind (present_follow _ _)

theorem ofString_slash (a b : String) :
    ofString (a ++ "/" ++ b) = ⟨(ofString a).segments ++ (ofString b).segments⟩ :=
  congrArg Path.mk (segments_ofString_append a b)

theorem ofString_slash_wildcard (a : String) :
    ofString (a ++ "/*") = ⟨(ofString a).segments ++ [wildcard]⟩ := by
  have h : a ++ "/*" = a ++ "/" ++ "*" := by rw [String.append_assoc]; rfl
  rw [h]
  exact ofString_slash a "*"

theorem ofString_slash_wildcard_slash (a b : String) :
    ofString (a ++ "/*/" ++ b) =
      ⟨(ofString a).segments ++ wildcard :: (ofString b).segments⟩ := by
  have h : a ++ "/*/" = a ++ "/*" ++ "/" := by rw [String.append_assoc]; rfl
  rw [h, ofString_slash, ofString_slash_wildcard]
  simp

theorem behind_segments (s : String) : behind (ofString s).segments = ofString s := by
  cases hs : (ofString s).segments with
  | nil => exact absurd hs (Text.split_ne_nil s)
  | cons segment rest => rw [behind, ← hs]

/-- **Resolution is compositional.**  A path without a `*` never fails, and a path behind it
goes on from what it leads to.  A `*` behind it expands what it leads to along the rest.  The
empty path leads to the value itself, and one segment to a child. -/
theorem resolve_compositional (t : Json) :
    (∀ p q : String, wildcard ∉ (ofString p).segments →
      ∃ found, (ofString p).outcome t = .ok found ∧
        (ofString (p ++ "/" ++ q)).outcome t = goOn (ofString p) (ofString q) found ∧
        Expands (ofString q) found ((ofString (p ++ "/*/" ++ q)).outcome t) ∧
        Expands (ofString "") found ((ofString (p ++ "/*")).outcome t)) ∧
    (ofString "").outcome t = .ok (if t = .null then none else some t) ∧
    (∀ s : String, '/' ∉ s.toList → s ≠ "" → s ≠ wildcard →
      ∃ found, (ofString s).outcome t = .ok found ∧
        ∀ v, found = some v ↔ v ≠ .null ∧ Child s t v) := by
  refine ⟨?_, ?_, ?_⟩
  · intro p q hp
    refine ⟨follow (ofString p).segments (some t), result_resolveFrom_of_not_mem hp, ?_, ?_, ?_⟩
    · rw [ofString_slash]
      exact outcome_append hp t
    · have h := outcome_append_wildcard hp (ofString q).segments t
      rw [behind_segments] at h
      rw [ofString_slash_wildcard_slash]
      exact h
    · rw [ofString_slash_wildcard]
      exact outcome_append_wildcard hp [] t
  · have hf : (ofString "").outcome t = .ok (follow [""] (some t)) :=
      result_resolveFrom_of_not_mem (by decide)
    rw [hf]
    by_cases ht : t = .null
    · subst ht; rfl
    · simp [follow, present_some ht, ht]
  · exact fun s hs he hw => outcome_of_segment hs he hw

/-- Rows with and without an `id`. -/
def rows : Json := .obj [("rows", .arr [.obj [("id", .int 1)], .obj [("name", .str "b")]])]

theorem resolve_rows_compositional :
    (wildcard ∉ (ofString "rows").segments ∧
      ∃ found, (ofString "rows").outcome rows = .ok found ∧
        (ofString ("rows" ++ "/" ++ "id")).outcome rows =
          goOn (ofString "rows") (ofString "id") found ∧
        Expands (ofString "id") found ((ofString ("rows" ++ "/*/" ++ "id")).outcome rows) ∧
        Expands (ofString "") found ((ofString ("rows" ++ "/*")).outcome rows)) ∧
    ('/' ∉ "rows".toList ∧ "rows" ≠ "" ∧ "rows" ≠ wildcard ∧
      ∃ found, (ofString "rows").outcome rows = .ok found ∧
        ∀ v, found = some v ↔ v ≠ .null ∧ Child "rows" rows v) ∧
    (ofString "rows/*/id").outcome rows = .ok (some (.arr [.int 1, .null])) :=
  have h := resolve_compositional rows
  have hp : wildcard ∉ (ofString "rows").segments := by decide
  have hs : '/' ∉ "rows".toList := by decide
  have he : "rows" ≠ "" := by decide
  have hw : "rows" ≠ wildcard := by decide
  ⟨⟨hp, h.1 "rows" "id" hp⟩, ⟨hs, he, hw, h.2.2 "rows" hs he hw⟩, rfl⟩

end Reshape.Path
