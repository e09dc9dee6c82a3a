/-
# Comparing values as a JSON Schema does

Bounds compare numbers exactly.  Equality and divisibility take numbers as floating-point
numbers: a whole number equals the floating-point number nearest to it, a constant equals
what differs from it by less than the step above one, and the quotient by a divisor with a
fraction is rounded before its own fraction is looked at.
-/
import Reshape.Json.Equality
import Reshape.JsonSchema.Basic

namespace Reshape.JsonSchema

/-! ## 1. Exact order -/

/-- A number in units of 2^-1074. -/
def scaled? : Json → Option Int
  | .int n => some (n * Nat.pow 2 1074)
  | .float x => some (if x.negative then -(x.units : Int) else x.units)
  | _ => none

/-- Does a number keep a bound?  Other values do. -/
def Bound.admits (b : Bound) (limit v : Json) : Bool :=
  match scaled? v, scaled? limit with
  | some x, some l =>
    match b with
    | minimum => l ≤ x
    | maximum => x ≤ l
    | exclusiveMinimum => l < x
    | exclusiveMaximum => x < l
  | _, _ => true

/-! ## 2. Equality -/

/-- Are two numbers equal as floating-point numbers? -/
def sameNumber (v w : Json) : Bool :=
  match v.toBinary64?, w.toBinary64? with
  | some x, some y => x.sameValue y
  | _, _ => false

mutual

/-- Are two values equal?  Entries of objects are compared in their order. -/
def same : Json → Json → Bool
  | .null, .null => true
  | .bool a, .bool b => a == b
  | .str s, .str t => s == t
  | .arr xs, .arr ys => sameItems xs ys
  | .obj es, .obj fs => sameEntries es fs
  | .int m, w => sameNumber (.int m) w
  | .float x, w => sameNumber (.float x) w
  | _, _ => false

def sameItems : List Json → List Json → Bool
  | [], [] => true
  | x :: xs, y :: ys => same x y && sameItems xs ys
  | _, _ => false

def sameEntries : List (String × Json) → List (String × Json) → Bool
  | [], [] => true
  | (k, x) :: es, (l, y) :: fs => k == l && same x y && sameEntries es fs
  | _, _ => false

end

/-- The step from one to the next floating-point number, in units of 2^-1074. -/
def stepAboveOne : Nat := Nat.pow 2 1022

/-- Do two numbers differ, after rounding, by less than the step above one? -/
def nearlySame (v w : Json) : Bool :=
  match v.toBinary64?.bind (fun x => scaled? (.float x)),
    w.toBinary64?.bind (fun y => scaled? (.float y)) with
  | some x, some y =>
    match Binary64.ofRatio? false (x - y).natAbs (Nat.pow 2 1074) with
    | some d => d.units < stepAboveOne
    | none => false
  | _, _ => false

/-- Does a value equal a constant? -/
def isConstant (c v : Json) : Bool :=
  if c.isNumber then nearlySame c v else same v c

/-- How many items are compared one by one; more are compared as whole trees. -/
def fewItems : Nat := 15

/-- Do the values of a list differ from each other? -/
def allDiffer (differ : Json → Json → Bool) : List Json → Bool
  | [] => true
  | v :: vs => vs.all (differ v) && allDiffer differ vs

mutual

/-- A value with the entries of every object sorted: what many items are compared by. -/
def sorted : Json → Json
  | .arr vs => .arr (sortedItems vs)
  | .obj es => .obj (Entries.sortByKey (sortedEntries es))
  | v => v

def sortedItems : List Json → List Json
  | [] => []
  | v :: vs => sorted v :: sortedItems vs

def sortedEntries : List (String × Json) → List (String × Json)
  | [] => []
  | (k, v) :: es => (k, sorted v) :: sortedEntries es

end

/-- Are the items of an array different? -/
def isUnique (items : List Json) : Bool :=
  if items.length ≤ fewItems then allDiffer (fun v w => !same v w) items
  else allDiffer (fun v w => !v.identical w) (items.map sorted)

/-! ## 3. Divisibility -/

/-- Is a number a multiple of a divisor? -/
def isMultipleOf (n v : Json) : Bool :=
  match v.toBinary64?, n.toBinary64? with
  | some x, some y =>
    if y.units = 0 then true
    else if y.toInt?.isSome then x.units % y.units = 0
    else
      match Binary64.ofRatio? x.negative x.units y.units with
      | none => x.units % y.units = 0
      | some q => x.negative || q.units % Nat.pow 2 1074 < stepAboveOne
  | _, _ => true

/-! ## 4. Counts -/

/-- The number of characters, of items or of entries of a value that has them. -/
def Measure.of? : Measure → Json → Option Nat
  | characters, .str s => some s.length
  | items, .arr vs => some vs.length
  | properties, .obj es => some es.length
  | _, _ => none

/-- The natural number that a value is, however it is written. -/
def nat? (v : Json) : Option Nat :=
  let n? := match v with
    | .int n => some n
    | .float x => x.toInt?
    | _ => none
  match n? with
  | some (.ofNat n) => some n
  | _ => none

end Reshape.JsonSchema
