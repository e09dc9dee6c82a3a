/-
# Validating values

`Schema.violations` gathers all that is wrong with a value under a schema: assertion by
assertion, in the order of the keywords.  Assertions about parts of a value report what is
wrong with the parts at the places of the parts; those that only ask whether a schema is met
report a problem of their own.  Some assertions are about the parts of which no other speaks,
so it is also said which parts those are (`Schema.evaluated`).

A schema may refer to itself, so the number of schemas that follow each other is bounded: by
the depth of the value times the number of schemas, which no schema exceeds that ever comes to
an end.
-/
import Reshape.JsonSchema.Loader

namespace Reshape.JsonSchema

/-! ## 1. Assertions -/

/-- Gathers what is wrong with a value, at its place, under a schema. -/
abbrev Check := Schema → Location → Json → List Violation

/-- A problem with a value, if a condition fails. -/
def unless' (ok : Bool) (place : Location) (v : Json) (p : Problem) : List Violation :=
  if ok then [] else [⟨place, v, p⟩]

/-- The names that are missing in an object. -/
def missingNames (place : Location) (v : Json) (names : List String) : List Violation :=
  match v with
  | .obj es =>
    (names.filter fun n => !Entries.contains n es).map fun n => ⟨place, v, .missing n⟩
  | _ => []

/-- What is wrong with the entries that stand under names of a table. -/
def tableViolations (check : Check) (place : Location) (es : Entries Json)
    (table : List (String × Schema)) : List Violation :=
  table.flatMap fun t =>
    match Entries.get? t.1 es with
    | some v => check t.2 (place.key t.1) v
    | none => []

/-- What is wrong with an entry under the schemas that speak for it, if any does. -/
def entryViolations? (check : Check) (place : Location) (table : List (String × Schema))
    (patterns : List (Regex × Schema)) (e : String × Json) : Option (List Violation) :=
  let named := (Entries.get? e.1 table).toList
  let matching := (patterns.filter fun p => p.1.isMatch e.1).map Prod.snd
  match named ++ matching with
  | [] => none
  | ss => some (ss.flatMap fun s => check s (place.key e.1) e.2)

/-- What is wrong with the entries of an object when all others fall under one schema. -/
def allEntriesViolations (check : Check) (place : Location) (v : Json) (es : Entries Json)
    (table : List (String × Schema)) (patterns : List (Regex × Schema)) (others : Schema) :
    List Violation :=
  let speaks := entryViolations? check place table patterns
  match others with
  | .nothing =>
    let unexpected := (es.filter fun e => (speaks e).isNone).map Prod.fst
    es.flatMap (fun e => (speaks e).getD []) ++
      unless' unexpected.isEmpty place v (.unexpected unexpected)
  | s => es.flatMap fun e => (speaks e).getD (check s (place.key e.1) e.2)

/-- The parts of a value that a schema speaks for. -/
abbrev Cover := Schema → Json → List Step

/-- The parts of a value that an assertion speaks for.  A schema that the value does not meet
speaks for none. -/
def Assertion.evaluated (check : Check) (cover : Cover) (deref : String → Schema) (v : Json)
    (a : Assertion) : List Step :=
  let meets (s : Schema) (w : Json) : Bool := (check s [] w).isEmpty
  let keys := Entries.keys (v.obj?.getD [])
  let items := match v with
    | .arr vs => vs.zipIdx
    | _ => []
  match a with
  | .properties table => (keys.filter fun k => Entries.contains k table).map .key
  | .patternProperties ps => (keys.filter fun k => ps.any fun p => p.1.isMatch k).map .key
  | .allProperties _ _ _ => keys.map .key
  | .noProperties => keys.map .key
  | .anyProperties => keys.map .key
  | .unevaluatedProperties _ _ => keys.map .key
  | .prefixItems ss => (items.take ss.length).map fun e => .index e.2
  | .items _ _ => items.map fun e => .index e.2
  | .contains s _ _ => (items.filter fun e => meets s e.1).map fun e => .index e.2
  | .unevaluatedItems _ _ => items.map fun e => .index e.2
  | .dependentSchemas table =>
    table.flatMap fun t => if (v.get? t.1).isSome then cover t.2 v else []
  | .allOf ss => (ss.filter fun s => meets s v).flatMap fun s => cover s v
  | .anyOf ss => (ss.filter fun s => meets s v).flatMap fun s => cover s v
  | .oneOf ss => (ss.filter fun s => meets s v).flatMap fun s => cover s v
  | .conditional condition met unmet =>
    if meets condition v then cover condition v ++ met.toList.flatMap fun s => cover s v
    else unmet.toList.flatMap fun s => cover s v
  | .reference target => cover (deref target) v
  | _ => []

/-- What is wrong with a value under an assertion. -/
def Assertion.violations (check : Check) (cover : Cover) (deref : String → Schema)
    (place : Location) (v : Json) (a : Assertion) : List Violation :=
  let meets (s : Schema) (w : Json) : Bool := (check s place w).isEmpty
  let complain (ok : Bool) (p : Problem) : List Violation := unless' ok place v p
  match a with
  | .kinds ks => complain (ks.any fun k => k.holds v) (.kinds ks)
  | .options vs => complain (vs.any fun o => same v o) (.options vs)
  | .constant c => complain (isConstant c v) (.constant c)
  | .bound b limit => complain (b.admits limit v) (.bound b limit)
  | .multipleOf n => complain (isMultipleOf n v) (.multipleOf n)
  | .atLeast m n => complain ((m.of? v).all (n ≤ ·)) (.tooFew m n)
  | .atMost m n => complain ((m.of? v).all (· ≤ n)) (.tooMany m n)
  | .pattern source r => complain (v.str?.all r.isMatch) (.pattern source)
  | .unique => complain (!v.isMany || isUnique v.candidates) .notUnique
  | .required names => missingNames place v names
  | .dependentRequired table =>
    table.flatMap fun t => if (v.get? t.1).isSome then missingNames place v t.2 else []
  | .dependentSchemas table =>
    table.flatMap fun t => if (v.get? t.1).isSome then check t.2 place v else []
  | .properties table => tableViolations check place (v.obj?.getD []) table
  | .patternProperties ps =>
    ps.flatMap fun p =>
      ((v.obj?.getD []).filter fun e => p.1.isMatch e.1).flatMap fun e =>
        check p.2 (place.key e.1) e.2
  | .allProperties table ps others =>
    match v with
    | .obj es => allEntriesViolations check place v es table ps others
    | _ => []
  | .noProperties =>
    match v with
    | .obj ((_, w) :: _) => [⟨place, w, .forbidden⟩]
    | _ => []
  | .anyProperties => []
  | .propertyNames .nothing =>
    complain (v.obj?.all List.isEmpty) .forbidden
  | .propertyNames s => (v.obj?.getD []).flatMap fun e => check s place (.str e.1)
  | .prefixItems ss =>
    match v with
    | .arr vs => (ss.zip vs.zipIdx).flatMap fun e => check e.1 (place.index e.2.2) e.2.1
    | _ => []
  | .items skipped s =>
    match v with
    | .arr vs => (vs.zipIdx.drop skipped).flatMap fun e => check s (place.index e.2) e.1
    | _ => []
  | .contains s least most =>
    match v with
    | .arr vs =>
      let n := (vs.filter (meets s)).length
      complain (least.getD 1 ≤ n && most.all (n ≤ ·)) .containsNone
    | _ => []
  | .allOf ss => ss.flatMap fun s => check s place v
  | .anyOf ss => complain (ss.any fun s => meets s v) (.noneOf "anyOf")
  | .oneOf ss =>
    match (ss.filter fun s => meets s v).length with
    | 0 => [⟨place, v, .noneOf "oneOf"⟩]
    | 1 => []
    | _ => [⟨place, v, .severalOf⟩]
  | .conditional condition met unmet =>
    match if meets condition v then met else unmet with
    | some s => check s place v
    | none => []
  | .negation source s => complain (!meets s v) (.negated source)
  | .reference target => check (deref target) place v
  | .unevaluatedProperties beside s =>
    let spoken := beside.flatMap (Assertion.evaluated check cover deref v)
    let left := (v.obj?.getD []).filter fun e => !spoken.contains (.key e.1) && !meets s e.2
    complain left.isEmpty (.unevaluatedProperties (left.map Prod.fst))
  | .unevaluatedItems beside s =>
    match v with
    | .arr vs =>
      let spoken := beside.flatMap (Assertion.evaluated check cover deref v)
      let left := vs.zipIdx.filter fun e => !spoken.contains (.index e.2) && !meets s e.1
      complain left.isEmpty (.unevaluatedItems (left.map Prod.fst))
    | _ => []

/-! ## 2. Schemas -/

mutual

/-- What is wrong with a value under a schema in which others follow each other at most so
deep. -/
def Schema.violations (deref : String → Schema) : Nat → Check
  | 0 => fun _ _ _ => []
  | depth + 1 => fun s place v =>
    match s with
    | .anything => []
    | .nothing => [⟨place, v, .forbidden⟩]
    | .all assertions =>
      assertions.flatMap (Assertion.violations (Schema.violations deref depth)
        (Schema.evaluated deref depth) deref place v)

/-- The parts of a value that a schema speaks for in which others follow each other at most so
deep. -/
def Schema.evaluated (deref : String → Schema) : Nat → Cover
  | 0 => fun _ _ => []
  | depth + 1 => fun s v =>
    match s with
    | .all assertions =>
      assertions.flatMap (Assertion.evaluated (Schema.violations deref depth)
        (Schema.evaluated deref depth) deref v)
    | _ => []

end

mutual

/-- How deep arrays and objects nest in a value. -/
def depthOf (v : Json) : Nat :=
  match v with
  | .arr vs => 1 + depthOfItems vs
  | .obj es => 1 + depthOfEntries es
  | _ => 1

def depthOfItems : List Json → Nat
  | [] => 0
  | v :: vs => max (depthOf v) (depthOfItems vs)

def depthOfEntries : List (String × Json) → Nat
  | [] => 0
  | (_, v) :: es => max (depthOf v) (depthOfEntries es)

end

/-- What is wrong with a value under a schema with references. -/
def Compiled.violations (c : Compiled) (v : Json) : List Violation :=
  let deref (target : String) : Schema := (Entries.get? target c.table).getD .anything
  Schema.violations deref ((depthOf v + 1) * c.depth) c.schema [] v

/-- The check that a JSON Schema stands for: what is wrong with a value under it. -/
abbrev Validators := Json → Except Fault (Json → List Violation)

/-- The checks of this library. -/
def validators : Validators := fun schema => (compile schema).map Compiled.violations

end Reshape.JsonSchema

namespace Reshape

/-! ## 3. Outputs -/

/-- Why an output is not accepted. -/
inductive ValidationError where
  | invalidSchema (fault : JsonSchema.Fault)
  | invalid (violations : List JsonSchema.Violation)
deriving DecidableEq

namespace ValidationError

def message : ValidationError → String
  | invalidSchema fault => s!"invalid output schema: {fault.message}"
  | invalid violations => s!"output failed validation with {violations.length} error(s)"

def exitCode : ValidationError → Nat
  | invalidSchema _ => 2
  | invalid _ => 1

end ValidationError

/-- Checks an output against a JSON Schema. -/
def validateOutput (output schema : Json)
    (validators : JsonSchema.Validators := JsonSchema.validators) : Except ValidationError Unit :=
  match validators schema with
  | .error fault => .error (.invalidSchema fault)
  | .ok violations =>
    match violations output with
    | [] => .ok ()
    | found => .error (.invalid found)

end Reshape
