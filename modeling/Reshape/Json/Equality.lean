/-
# Equality of values

Objects are equal whatever the order of their entries, and the two zeros are equal; a whole
number never equals a floating-point number.  Two values are equal when they have one
canonical form, in which entries are sorted by key and zero has no sign, so equality is an
equivalence by construction.

Main statement: `get?_canonical`, which says that reading a key commutes with taking the
canonical form.  `dedup` keeps the first of equal values.
-/
import Reshape.Json.Basic

namespace Reshape.Json

/-! ## 1. Canonical forms -/

mutual

/-- Entries sorted by key at every depth, and every zero without sign. -/
def canonical : Json → Json
  | null => null
  | bool b => bool b
  | int n => int n
  | float x => float x.unsigned
  | str s => str s
  | arr items => arr (canonicalItems items)
  | obj es => obj (Entries.sortByKey (canonicalEntries es))

def canonicalItems : List Json → List Json
  | [] => []
  | v :: vs => canonical v :: canonicalItems vs

def canonicalEntries : List (String × Json) → List (String × Json)
  | [] => []
  | (k, v) :: es => (k, canonical v) :: canonicalEntries es

end

@[simp] theorem canonicalItems_eq_map (items : List Json) :
    canonicalItems items = items.map canonical := by
  induction items with
  | nil => rfl
  | cons v vs ih => simp [canonicalItems, ih]

@[simp] theorem canonicalEntries_eq_map (es : List (String × Json)) :
    canonicalEntries es = es.map fun e => (e.1, canonical e.2) := by
  induction es with
  | nil => rfl
  | cons e es ih => simp [canonicalEntries, ih]

/-! ## 2. Equality -/

/-- Equality of values. -/
def equal (v w : Json) : Bool := decide (v.canonical = w.canonical)

@[simp] theorem equal_iff {v w : Json} : equal v w = true ↔ v.canonical = w.canonical := by
  simp [equal]

/-- The canonical form of the value under a key is the value under it in the canonical
form. -/
theorem get?_canonical (key : String) (v : Json) :
    get? key v.canonical = (get? key v).map canonical := by
  cases v with
  | obj es =>
    simp only [canonical, get?, Entries.get?_sortByKey, canonicalEntries_eq_map]
    induction es with
    | nil => rfl
    | cons e es ih =>
      obtain ⟨k, v⟩ := e
      by_cases h : k = key <;> simp [h, ih]
  | _ => rfl

/-! ## 3. Membership and first occurrences -/

/-- Does a list of values hold a value equal to `v`? -/
def memberOf (v : Json) (items : List Json) : Bool := items.any (equal v)

theorem memberOf_iff {v : Json} {items : List Json} :
    memberOf v items = true ↔ ∃ w ∈ items, v.canonical = w.canonical := by
  simp [memberOf]

/-- The list `kept`, followed by the values of a list that equal none before them. -/
def dedupOnto (kept : List Json) : List Json → List Json
  | [] => kept
  | v :: vs => dedupOnto (if memberOf v kept then kept else kept ++ [v]) vs

/-- The first occurrence of each value of a list, in order. -/
def dedup (items : List Json) : List Json := dedupOnto [] items

end Reshape.Json
