/-
# Loading JSON Schemas

Every keyword has a shape: a schema, a list or a mapping of schemas, or a value of some form.
A value is a schema if the shape of every keyword in it is right, its patterns are regular
expressions and its references lead somewhere; keywords of no meaning are passed over.

Loading goes in two steps.  The first follows the value and loads the schemas within it; the
second turns the keywords of one schema into assertions, where some keywords look at others
beside them.

The schema language is that of draft 2020-12.  Earlier drafts have keywords of other shapes and
formats that are checked; a schema that says it is written in one of them is not read here.
-/
import Reshape.Json.Shape
import Reshape.JsonSchema.Number
import Reshape.JsonSchema.Pattern
import Reshape.JsonSchema.Violation
import Reshape.Text.Digits
import Reshape.Text.Split
import Reshape.Text.Utf8

namespace Reshape.JsonSchema

/-! ## 1. Faults -/

/-- Why a value is no schema. -/
inductive Fault where
  /-- A part of it is not as its keyword demands. -/
  | malformed (subject : Json) (problem : Problem)
  /-- A reference leads nowhere. -/
  | unresolved (reference : String)
  /-- The schema language is unknown. -/
  | unknownDialect (name : String)
deriving DecidableEq

def Fault.message : Fault → String
  | malformed subject problem => problem.message subject
  | unresolved reference => s!"Pointer '{reference}' does not exist"
  | unknownDialect name => s!"Unknown specification: {name}"

/-! ## 2. References -/

/-- The text of a reference with its percent escapes replaced. -/
def percentBytes : List Char → List UInt8
  | '%' :: a :: b :: cs =>
    match Text.number? 16 [a, b] with
    | some n => n.toUInt8 :: percentBytes cs
    | none => "%".toUTF8.toList ++ percentBytes (a :: b :: cs)
  | c :: cs => (String.singleton c).toUTF8.toList ++ percentBytes cs
  | [] => []
termination_by cs => cs.length

/-- A step of a pointer without its escapes. -/
def unescape : List Char → List Char
  | '~' :: '1' :: cs => '/' :: unescape cs
  | '~' :: '0' :: cs => '~' :: unescape cs
  | c :: cs => c :: unescape cs
  | [] => []

/-- The part of a value that a step of a pointer leads to. -/
def pointerStep (v : Json) (step : String) : Option Json :=
  match v with
  | .obj es => Entries.get? (String.ofList (unescape step.toList)) es
  | .arr vs => (Text.number? 10 step.toList).bind (vs[·]?)
  | _ => none

/-- The part of a value that a pointer leads to. -/
def followPointer? (root : Json) (pointer : String) : Option Json :=
  ((Text.split '/' pointer).drop 1).foldlM pointerStep root

mutual

/-- The first object, from the outside in, in which a key has a text for its value. -/
def findLabelled (key text : String) : Json → Option Json
  | .obj es =>
    if Entries.get? key es = some (.str text) then some (.obj es)
    else findLabelledEntry key text es
  | .arr vs => findLabelledItem key text vs
  | _ => none

def findLabelledItem (key text : String) : List Json → Option Json
  | [] => none
  | v :: vs =>
    match findLabelled key text v with
    | some found => some found
    | none => findLabelledItem key text vs

def findLabelledEntry (key text : String) : List (String × Json) → Option Json
  | [] => none
  | (_, v) :: es =>
    match findLabelled key text v with
    | some found => some found
    | none => findLabelledEntry key text es

end

/-- What a fragment leads to: a pointer, or the name of an anchor. -/
def followFragment? (root : Json) (fragment : String) : Option Json :=
  let decoded := (Text.ofBytes? ⟨(percentBytes fragment.toList).toArray⟩).getD fragment
  if decoded = "" then some root
  else if decoded.toList.head? = some '/' then followPointer? root decoded
  else (findLabelled "$anchor" decoded root).or (findLabelled "$dynamicAnchor" decoded root)

/-- What a reference leads to: a fragment of the whole, or of the schema it names. -/
def follow? (root : Json) (reference : String) : Option Json :=
  let name := String.ofList (reference.toList.takeWhile (· != '#'))
  let fragment := String.ofList ((reference.toList.dropWhile (· != '#')).drop 1)
  let base := if name = "" then some root else findLabelled "$id" name root
  base.bind fun b => followFragment? b fragment

mutual

/-- The texts of all references in a value. -/
def references : Json → List String
  | .obj es => referencesInEntries es
  | .arr vs => referencesInItems vs
  | _ => []

def referencesInItems : List Json → List String
  | [] => []
  | v :: vs => references v ++ referencesInItems vs

def referencesInEntries : List (String × Json) → List String
  | [] => []
  | (k, v) :: es =>
    (if k = "$ref" ∨ k = "$dynamicRef" then v.str?.toList else []) ++ references v ++
      referencesInEntries es

end

/-! ## 3. Shapes of keywords -/

/-- What a keyword demands of its value. -/
inductive Shape where
  | schema
  | schemas
  | namedSchemas
  /-- Names with a schema or a list of names each. -/
  | dependencies
  | kinds
  | array
  | string
  | boolean
  | number
  | positiveNumber
  | count
  | names
  | namedNames
  | reference
  | regex
  | dialect
  /-- Any value, or a keyword of no meaning. -/
  | any
deriving DecidableEq, Repr

/-- The shapes of the keywords. -/
def shapes : List (String × Shape) :=
  [("$schema", .dialect), ("$id", .string), ("$anchor", .string), ("$comment", .string),
    ("$dynamicAnchor", .string), ("$ref", .reference), ("$dynamicRef", .reference),
    ("$defs", .namedSchemas), ("definitions", .namedSchemas), ("dependencies", .dependencies),
    ("prefixItems", .schemas), ("items", .schema), ("contains", .schema),
    ("additionalProperties", .schema), ("properties", .namedSchemas),
    ("patternProperties", .namedSchemas), ("dependentSchemas", .namedSchemas),
    ("propertyNames", .schema), ("if", .schema), ("then", .schema), ("else", .schema),
    ("allOf", .schemas), ("anyOf", .schemas), ("oneOf", .schemas), ("not", .schema),
    ("unevaluatedItems", .schema), ("unevaluatedProperties", .schema),
    ("type", .kinds), ("enum", .array), ("multipleOf", .positiveNumber),
    ("maximum", .number), ("exclusiveMaximum", .number), ("minimum", .number),
    ("exclusiveMinimum", .number), ("maxLength", .count), ("minLength", .count),
    ("pattern", .regex), ("maxItems", .count), ("minItems", .count),
    ("uniqueItems", .boolean), ("maxContains", .count), ("minContains", .count),
    ("maxProperties", .count), ("minProperties", .count), ("required", .names),
    ("dependentRequired", .namedNames), ("title", .string), ("description", .string),
    ("deprecated", .boolean), ("readOnly", .boolean), ("writeOnly", .boolean),
    ("examples", .array), ("format", .string), ("contentEncoding", .string),
    ("contentMediaType", .string), ("contentSchema", .schema)]

/-- The shape of a keyword. -/
def shapeOf (keyword : String) : Shape := (Entries.get? keyword shapes).getD .any

/-- Demands that a value is of a kind. -/
def expectKind (k : Kind) (v : Json) : Except Fault Unit :=
  if k.holds v then .ok () else .error (.malformed v (.kinds [k]))

/-- Demands a list of different names. -/
def expectNames (v : Json) : Except Fault Unit := do
  expectKind .array v
  v.candidates.forM (expectKind .string)
  if !isUnique v.candidates then .error (.malformed v .notUnique)

/-- Demands the name of a kind, or a list of different names of kinds. -/
def expectKinds (v : Json) : Except Fault Unit :=
  let isKind (w : Json) : Bool := (w.str?.bind Kind.ofName?).isSome
  let good := match v with
    | .arr [] => false
    | .arr vs => vs.all isKind && isUnique vs
    | w => isKind w
  if good then .ok () else .error (.malformed v (.noneOf "anyOf"))

/-- The names of the schema language that is spoken here. -/
def dialects : List String :=
  ["https://json-schema.org/draft/2020-12/schema", "https://json-schema.org/draft/2020-12/schema#"]

/-- Demands what a shape without schemas demands. -/
def Shape.check (root : Json) (v : Json) : Shape → Except Fault Unit
  | array => expectKind .array v
  | string => expectKind .string v
  | boolean => expectKind .boolean v
  | number => expectKind .number v
  | positiveNumber => do
    expectKind .number v
    if !Bound.exclusiveMinimum.admits (.int 0) v then
      .error (.malformed v (.bound .exclusiveMinimum (.int 0)))
  | count => do
    expectKind .integer v
    if !Bound.minimum.admits (.int 0) v then
      .error (.malformed v (.bound .minimum (.int 0)))
  | kinds => expectKinds v
  | names => expectNames v
  | namedNames => do
    expectKind .object v
    (v.obj?.getD []).forM fun e => expectNames e.2
  | regex => do
    expectKind .string v
    if ((v.str?).bind Pattern.compile?).isNone then .error (.malformed v .notRegex)
  | reference => do
    expectKind .string v
    let target := v.str?.getD ""
    if (follow? root target).isNone then .error (.unresolved target)
  | dialect => do
    expectKind .string v
    let name := v.str?.getD ""
    if !dialects.contains name then .error (.unknownDialect name)
  | _ => .ok ()

/-! ## 4. The schemas within a schema -/

/-- The schemas that a keyword holds. -/
inductive Part where
  | none
  | one (s : Schema)
  | many (ss : List Schema)
  | named (es : List (String × Schema))

/-- A keyword with its value and the schemas in it. -/
structure Keyword where
  name : String
  value : Json
  part : Part

/-- The value of a keyword. -/
def valueOf? (name : String) (ks : List Keyword) : Option Json :=
  (ks.find? fun k => k.name == name).map Keyword.value

/-- The schema that a keyword holds. -/
def schemaOf? (name : String) (ks : List Keyword) : Option Schema :=
  match (ks.find? fun k => k.name == name).map Keyword.part with
  | some (.one s) => some s
  | _ => none

/-- The named schemas that a keyword holds. -/
def namedOf? (name : String) (ks : List Keyword) : Option (List (String × Schema)) :=
  match (ks.find? fun k => k.name == name).map Keyword.part with
  | some (.named es) => some es
  | _ => none

/-- Schemas under regular expressions. -/
def patterns (es : List (String × Schema)) : Except Fault (List (Regex × Schema)) :=
  es.mapM fun e =>
    match Pattern.compile? e.1 with
    | some r => .ok (r, e.2)
    | none => .error (.malformed (.str e.1) .notRegex)

/-! ## 5. Assertions -/

/-- Is `additionalProperties` there, and more than `true`?  Then it also speaks for the
properties and the patterns beside it. -/
def limitsOthers (ks : List Keyword) : Bool :=
  match valueOf? "additionalProperties" ks with
  | some (.bool false) => true
  | some (.obj _) => true
  | _ => false

/-- The assertion of `additionalProperties`. -/
def otherProperties (ks : List Keyword) (others : Schema) : Except Fault Assertion := do
  match namedOf? "properties" ks, namedOf? "patternProperties" ks, others with
  | none, none, .nothing => pure .noProperties
  | table, ps, others => do
    let ps ← patterns (ps.getD [])
    pure (.allProperties (table.getD []) ps others)

/-- The texts of a list. -/
def textsOf (v : Json) : List String := v.candidates.filterMap Json.str?

/-- The assertion that a keyword makes beside others, if it makes one. -/
def assertion? (ks : List Keyword) (k : Keyword) : Except Fault (Option Assertion) :=
  let v := k.value
  let some' (a : Assertion) : Except Fault (Option Assertion) := .ok (some a)
  match k.name, k.part with
  | "type", _ => some' (.kinds ((textsOf v).filterMap Kind.ofName?))
  | "enum", _ => some' (.options v.candidates)
  | "const", _ => some' (.constant v)
  | "minimum", _ => some' (.bound .minimum v)
  | "maximum", _ => some' (.bound .maximum v)
  | "exclusiveMinimum", _ => some' (.bound .exclusiveMinimum v)
  | "exclusiveMaximum", _ => some' (.bound .exclusiveMaximum v)
  | "multipleOf", _ => some' (.multipleOf v)
  | "minLength", _ => .ok ((nat? v).map (.atLeast .characters))
  | "maxLength", _ => .ok ((nat? v).map (.atMost .characters))
  | "minItems", _ => .ok ((nat? v).map (.atLeast .items))
  | "maxItems", _ => .ok ((nat? v).map (.atMost .items))
  | "minProperties", _ => .ok ((nat? v).map (.atLeast .properties))
  | "maxProperties", _ => .ok ((nat? v).map (.atMost .properties))
  | "pattern", _ =>
    .ok (v.str?.bind fun source => (Pattern.compile? source).map (.pattern source))
  | "uniqueItems", _ => .ok (if v == .bool true then some .unique else none)
  | "required", _ => some' (.required (textsOf v))
  | "dependentRequired", _ =>
    some' (.dependentRequired ((v.obj?.getD []).map fun e => (e.1, textsOf e.2)))
  | "dependentSchemas", .named es => some' (.dependentSchemas es)
  | "properties", .named es =>
    .ok (if limitsOthers ks then none else some (.properties es))
  | "patternProperties", .named es => do
    let ps ← patterns es
    pure (if limitsOthers ks then none else some (.patternProperties ps))
  | "additionalProperties", .one s =>
    if limitsOthers ks then (otherProperties ks s).map some else some' .anyProperties
  | "propertyNames", .one s => some' (.propertyNames s)
  | "prefixItems", .many ss => some' (.prefixItems ss)
  | "items", .one s =>
    some' (.items (((valueOf? "prefixItems" ks).map fun w => w.candidates.length).getD 0) s)
  | "contains", .one s =>
    some' (.contains s ((valueOf? "minContains" ks).bind nat?)
      ((valueOf? "maxContains" ks).bind nat?))
  | "allOf", .many ss => some' (.allOf ss)
  | "anyOf", .many ss => some' (.anyOf ss)
  | "oneOf", .many ss => some' (.oneOf ss)
  | "if", .one s => some' (.conditional s (schemaOf? "then" ks) (schemaOf? "else" ks))
  | "not", .one s => some' (.negation v s)
  | "$ref", _ => .ok (v.str?.map .reference)
  | "$dynamicRef", _ => .ok (v.str?.map .reference)
  | _, _ => .ok none

/-- The assertion that a keyword makes about what others do not speak for, if it makes one. -/
def restAssertion? (others : List Assertion) (k : Keyword) : Option Assertion :=
  match k.name, k.part with
  | "unevaluatedProperties", .one s => some (.unevaluatedProperties others s)
  | "unevaluatedItems", .one s => some (.unevaluatedItems others s)
  | _, _ => none

/-- The schema that keywords make. -/
def assemble (ks : List Keyword) : Except Fault Schema := do
  let made ← ks.mapM (assertion? ks)
  let others := made.filterMap id
  pure (.all ((ks.zip made).filterMap fun m => m.2.or (restAssertion? others m.1)))

/-! ## 6. Loading -/

mutual

/-- Loads a schema, whose references are followed from `root`. -/
def load (root : Json) : Json → Except Fault Schema
  | .bool b => .ok (if b then .anything else .nothing)
  | .obj es => do
    let ks ← loadKeywords root es
    assemble ks
  | v => .error (.malformed v (.kinds [.boolean, .object]))

/-- Loads the keywords of a schema. -/
def loadKeywords (root : Json) : List (String × Json) → Except Fault (List Keyword)
  | [] => .ok []
  | (k, v) :: es => do
    let part ← match shapeOf k with
      | .schema => (load root v).map Part.one
      | .schemas => (loadMany root v).map Part.many
      | .namedSchemas => (loadNamed root v).map Part.named
      | .dependencies => do
        loadDependencies root v
        pure Part.none
      | shape => do
        shape.check root v
        pure Part.none
    let ks ← loadKeywords root es
    pure (⟨k, v, part⟩ :: ks)

/-- Loads a list of schemas, which must not be empty. -/
def loadMany (root : Json) : Json → Except Fault (List Schema)
  | .arr vs =>
    if vs.isEmpty then .error (.malformed (.arr vs) (.tooFew .items 1)) else loadItems root vs
  | v => .error (.malformed v (.kinds [.array]))

def loadItems (root : Json) : List Json → Except Fault (List Schema)
  | [] => .ok []
  | v :: vs => do
    let s ← load root v
    let ss ← loadItems root vs
    pure (s :: ss)

/-- Loads a mapping of schemas. -/
def loadNamed (root : Json) : Json → Except Fault (List (String × Schema))
  | .obj es => loadEntries root es
  | v => .error (.malformed v (.kinds [.object]))

def loadEntries (root : Json) : List (String × Json) → Except Fault (List (String × Schema))
  | [] => .ok []
  | (k, v) :: es => do
    let s ← load root v
    let ss ← loadEntries root es
    pure ((k, s) :: ss)

/-- Checks a mapping of schemas and lists of names, which asserts nothing. -/
def loadDependencies (root : Json) : Json → Except Fault Unit
  | .obj es => checkDependencies root es
  | v => .error (.malformed v (.kinds [.object]))

def checkDependencies (root : Json) : List (String × Json) → Except Fault Unit
  | [] => .ok ()
  | (_, v) :: es => do
    match load root v, expectNames v with
    | .error _, .error _ => .error (.malformed v (.noneOf "anyOf"))
    | _, _ => pure ()
    checkDependencies root es

end

/-- A schema with the schemas that its references stand for. -/
structure Compiled where
  schema : Schema
  table : List (String × Schema)
  /-- How deep the schemas in it can follow each other without a step into the value. -/
  depth : Nat

mutual

/-- The number of values in a value. -/
def sizeOf (v : Json) : Nat :=
  match v with
  | .arr vs => 1 + sizeOfItems vs
  | .obj es => 1 + sizeOfEntries es
  | _ => 1

def sizeOfItems : List Json → Nat
  | [] => 0
  | v :: vs => sizeOf v + sizeOfItems vs

def sizeOfEntries : List (String × Json) → Nat
  | [] => 0
  | (_, v) :: es => sizeOf v + sizeOfEntries es

end

/-- Loads a schema and all that it refers to. -/
def compile (root : Json) : Except Fault Compiled := do
  let schema ← load root root
  let targets := (references root).eraseDups.filterMap fun r =>
    (follow? root r).map fun v => (r, v)
  let table ← targets.mapM fun t => do
    let s ← load root t.2
    pure (t.1, s)
  pure ⟨schema, table, sizeOf root + 1⟩

end Reshape.JsonSchema
