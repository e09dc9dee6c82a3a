/-
# JSON values

A value is null, a Boolean, a whole number, a floating-point number, a text, an array or an
object.  Whole numbers and floating-point numbers are different values, however they
compare.  An object is a list of entries in the order in which its keys were first written;
values that are read or built by this library never hold two entries of one key
(`Json.WellFormed`).

Recursion over values goes in three parts: over a value, over the items of an array and over
the entries of an object.  `Json.induct` is the matching induction principle.
-/
import Reshape.Entries
import Reshape.Number.Binary64

namespace Reshape

inductive Json where
  | null
  | bool (b : Bool)
  | int (n : Int)
  | float (x : Binary64)
  | str (s : String)
  | arr (items : List Json)
  | obj (entries : List (String × Json))
deriving Inhabited

namespace Json

/-! ## 1. Induction -/

/-- Induction over values: the hypothesis holds of every item and of every entry's value. -/
@[induction_eliminator]
theorem induct {motive : Json → Prop} (null : motive .null) (bool : ∀ b, motive (.bool b))
    (int : ∀ n, motive (.int n)) (float : ∀ x, motive (.float x)) (str : ∀ s, motive (.str s))
    (arr : ∀ items, (∀ v ∈ items, motive v) → motive (.arr items))
    (obj : ∀ entries, (∀ e ∈ entries, motive e.2) → motive (.obj entries)) (v : Json) :
    motive v :=
  @Json.rec motive (fun items => ∀ v ∈ items, motive v)
    (fun entries => ∀ e ∈ entries, motive e.2) (fun e => motive e.2)
    null bool int float str arr obj
    (by simp) (fun _ _ hv hvs => by simpa using ⟨hv, hvs⟩)
    (by simp) (fun _ _ he hes => by simpa using ⟨he, fun k w h => hes (k, w) h⟩)
    (fun _ _ hv => hv) v

/-! ## 2. Kinds and parts -/

/-- The name of a value's kind, as messages write it. -/
def typeName : Json → String
  | null => "null"
  | bool _ => "boolean"
  | int _ => "number"
  | float _ => "number"
  | str _ => "string"
  | arr _ => "array"
  | obj _ => "object"

def isNull : Json → Bool
  | null => true
  | _ => false

@[simp] theorem isNull_iff {v : Json} : v.isNull = true ↔ v = .null := by
  cases v <;> simp [isNull]

/-- Null or false: how a schema field is switched off. -/
def isOff : Json → Bool
  | null => true
  | bool b => !b
  | _ => false

def isNumber : Json → Bool
  | int _ => true
  | float _ => true
  | _ => false

/-- The text of a text value. -/
def str? : Json → Option String
  | str s => some s
  | _ => none

/-- The entries of an object. -/
def obj? : Json → Option (Entries Json)
  | obj es => some es
  | _ => none

/-- The value under a key of an object; nothing for other values. -/
def get? (key : String) : Json → Option Json
  | obj es => Entries.get? key es
  | _ => none

/-- The number nearest to a numeric value. -/
def toBinary64? : Json → Option Binary64
  | int n => Binary64.ofInt? n
  | float x => some x
  | _ => none

/-! ## 3. Identity of trees -/

mutual

/-- Are two values the same tree, entry order and sign of zero included? -/
def identical : Json → Json → Bool
  | null, null => true
  | bool a, bool b => a == b
  | int m, int n => m == n
  | float x, float y => decide (x = y)
  | str s, str t => s == t
  | arr xs, arr ys => identicalItems xs ys
  | obj es, obj fs => identicalEntries es fs
  | _, _ => false

def identicalItems : List Json → List Json → Bool
  | [], [] => true
  | x :: xs, y :: ys => identical x y && identicalItems xs ys
  | _, _ => false

def identicalEntries : List (String × Json) → List (String × Json) → Bool
  | [], [] => true
  | (k, x) :: es, (l, y) :: fs => k == l && identical x y && identicalEntries es fs
  | _, _ => false

end

theorem identicalItems_iff {xs : List Json}
    (ih : ∀ x ∈ xs, ∀ y, identical x y = true ↔ x = y) (ys : List Json) :
    identicalItems xs ys = true ↔ xs = ys := by
  induction xs generalizing ys with
  | nil => cases ys <;> simp [identicalItems]
  | cons x xs hxs =>
    cases ys with
    | nil => simp [identicalItems]
    | cons y ys =>
      simp only [identicalItems, Bool.and_eq_true, List.cons.injEq,
        ih x (by simp), hxs (fun z hz => ih z (by simp [hz]))]

theorem identicalEntries_iff {es : List (String × Json)}
    (ih : ∀ e ∈ es, ∀ y, identical e.2 y = true ↔ e.2 = y) (fs : List (String × Json)) :
    identicalEntries es fs = true ↔ es = fs := by
  induction es generalizing fs with
  | nil => cases fs <;> simp [identicalEntries]
  | cons e es hes =>
    obtain ⟨k, x⟩ := e
    cases fs with
    | nil => simp [identicalEntries]
    | cons f fs =>
      obtain ⟨l, y⟩ := f
      simp only [identicalEntries, Bool.and_eq_true, beq_iff_eq, List.cons.injEq, Prod.mk.injEq,
        ih (k, x) (by simp), hes (fun z hz => ih z (by simp [hz]))]

theorem identical_iff (v : Json) : ∀ w, identical v w = true ↔ v = w := by
  induction v with
  | null => intro w; cases w <;> simp [identical]
  | bool b => intro w; cases w <;> simp [identical]
  | int n => intro w; cases w <;> simp [identical]
  | float x => intro w; cases w <;> simp [identical]
  | str s => intro w; cases w <;> simp [identical]
  | arr items ih => intro w; cases w <;> simp [identical, identicalItems_iff ih]
  | obj es ih => intro w; cases w <;> simp [identical, identicalEntries_iff ih]

instance : DecidableEq Json := fun v w =>
  if h : identical v w = true then isTrue ((identical_iff v w).mp h)
  else isFalse (fun e => h ((identical_iff v w).mpr e))

/-! ## 4. Well-formed values -/

/-- No object of the value, at any depth, holds two entries of one key. -/
inductive WellFormed : Json → Prop
  | null : WellFormed .null
  | bool (b : Bool) : WellFormed (.bool b)
  | int (n : Int) : WellFormed (.int n)
  | float (x : Binary64) : WellFormed (.float x)
  | str (s : String) : WellFormed (.str s)
  | arr {items : List Json} (h : ∀ v ∈ items, WellFormed v) : WellFormed (.arr items)
  | obj {entries : List (String × Json)} (distinct : Entries.Distinct entries)
      (h : ∀ e ∈ entries, WellFormed e.2) : WellFormed (.obj entries)

end Json

end Reshape
