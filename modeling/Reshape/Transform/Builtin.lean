/-
# The transforms that are always there

Each takes a fixed number of parameters and fails if it is given another number.  Those on
arrays leave other values alone, unless their doc comment says otherwise.
-/
import Reshape.Calendar.Reader
import Reshape.Json.Equality
import Reshape.Json.Reader
import Reshape.Json.Shape
import Reshape.Regex.Compile
import Reshape.Transform
import Reshape.Unicode.Case

namespace Reshape.Transform

/-! ## 1. Parameters -/

/-- A transform without parameters. -/
def nullary (name : String) (f : Json → Except TransformError Json) : Transform :=
  fun v params =>
    match params with
    | [] => .ofExcept (f v)
    | params =>
      throw (.invalidArguments name s!"expected 0 parameter(s), got {params.length}")

/-- A transform with one parameter. -/
def unary (name : String) (f : Json → String → Except TransformError Json) : Transform :=
  fun v params =>
    match params with
    | [p] => .ofExcept (f v p)
    | params =>
      throw (.invalidArguments name s!"expected 1 parameter(s), got {params.length}")

/-- A transform with two parameters. -/
def binary (name : String) (f : Json → String → String → Except TransformError Json) :
    Transform :=
  fun v params =>
    match params with
    | [p, q] => .ofExcept (f v p q)
    | params =>
      throw (.invalidArguments name s!"expected 2 parameter(s), got {params.length}")

/-! ## 2. Arrays -/

/-- The values of an array; null has none, and any other value is the only one. -/
def wrap : Json → List Json
  | .null => []
  | .arr items => items
  | v => [v]

/-- The different values of an array, without null. -/
def toArray : Transform := nullary "to_array" fun v =>
  .ok (.arr (Json.dropNulls (Json.dedup (wrap v))))

/-- The entry that an object with a `key` writes: the key as text, and the `value`. -/
def pairEntry? : Json → Option (String × Json)
  | .obj entries =>
    match Entries.get? "key" entries with
    | none => none
    | some .null => none
    | some key => some (key.toText, (Entries.get? "value" entries).getD .null)
  | _ => none

/-- The object that an array of objects with `key` and `value` writes. -/
def toHash : Transform := nullary "to_hash" fun v =>
  .ok (.obj (Entries.ofList ((Json.dedup (wrap v)).filterMap pairEntry?)))

/-- The first item of an array; null if there is none. -/
def firstValue : Transform := nullary "first_array_value" fun
  | .arr items => .ok (items.head?.getD .null)
  | v => .ok v

/-- The last item of an array; null if there is none. -/
def lastValue : Transform := nullary "last_array_value" fun
  | .arr items => .ok (items.getLast?.getD .null)
  | v => .ok v

/-- An array without repeated values. -/
def uniqArray : Transform := nullary "uniq_array" fun
  | .arr items => .ok (.arr (Json.dedup items))
  | v => .ok v

/-- The number of items; other values have none. -/
def arraySize : Transform := nullary "array_size" fun
  | .arr items => .ok (.int items.length)
  | _ => .ok (.int 0)

/-- Is one number at least another, both taken as floating-point numbers? -/
def atLeast (v w : Json) : Bool :=
  match v.toBinary64?, w.toBinary64? with
  | some x, some y => y.le x
  | _, _ => true

/-- The first of the greatest numbers. -/
def greatestNumber (first : Json) (rest : List Json) : Json :=
  rest.foldl (fun best v => if atLeast best v then best else v) first

/-- The greatest of texts, by code points. -/
def greatestText (first : String) (rest : List String) : String :=
  rest.foldl (fun best s => if s < best then best else s) first

/-- The greatest item of an array of numbers or of an array of texts; null of an empty
array. -/
def maxValue : Transform := nullary "max_array_value" fun
  | .arr [] => .ok .null
  | .arr (v :: vs) =>
    if (v :: vs).all Json.isNumber then .ok (greatestNumber v vs)
    else
      match (v :: vs).mapM Json.str? with
      | some (s :: ss) => .ok (.str (greatestText s ss))
      | _ => .error (.failed "max_array_value" "array mixes values that cannot be compared")
  | v => .ok v

/-- The latest of instants; an earlier one of two equal ones. -/
def latest : List Instant → Option Instant
  | [] => none
  | t :: ts => some (ts.foldl (fun best u => if u.laterThan best then u else best) t)

/-- The instant that an item of an array writes. -/
def instantOf (v : Json) : Except TransformError Instant :=
  match v.str?.bind Instant.read? with
  | some t => .ok t
  | none =>
    .error (.failed "max_datetime_array_value" s!"cannot parse {v.compact} as a date")

/-- The latest of the dates in an array, in universal time; null of an empty array. -/
def maxDatetime : Transform := nullary "max_datetime_array_value" fun
  | .arr items => do
    let ts ← items.mapM instantOf
    pure ((latest ts).elim .null fun t => .str t.text)
  | v => .ok v

/-- Does following keys through nested objects lead to a text? -/
def leadsTo (keys : List String) (text : String) (v : Json) : Bool :=
  match keys.foldlM (fun v k => Json.get? k v) v with
  | some (.str s) => s == text
  | _ => false

/-- The items in which a chain of keys, with stars between them, leads to a text. -/
def hashesFilter : Transform := binary "hashes_array_filter" fun v chain text =>
  match v with
  | .arr items => .ok (.arr (items.filter (leadsTo (Text.split '*' chain) text)))
  | v => .ok v

/-- The items whose text matches a regular expression; values that are no array have none. -/
def selectRegex : Transform := unary "array_select_regex" fun v pattern =>
  match Regex.compile pattern with
  | .error e => .error (.invalidArguments "array_select_regex" e.message)
  | .ok r =>
    match v with
    | .arr items => .ok (.arr (items.filter fun v => r.isMatch v.toText))
    | _ => .ok (.arr [])

/-! ## 3. Objects -/

/-- The value under a key; null if there is none. -/
def hashValue : Transform := unary "hash_value" fun v key =>
  match v with
  | .obj entries => .ok ((Entries.get? key entries).getD .null)
  | v => .ok v

/-- The values of an object. -/
def hashValues : Transform := nullary "hash_values" fun
  | .obj entries => .ok (.arr (Entries.values entries))
  | v => .ok v

/-- The keys of an object. -/
def hashKeys : Transform := nullary "hash_keys" fun
  | .obj entries => .ok (.arr ((Entries.keys entries).map .str))
  | v => .ok v

/-! ## 4. Texts -/

/-- The text of a value in lower case. -/
def downcase : Transform := nullary "downcase" fun v => .ok (.str (Text.lowercase v.toText))

/-- The text of a value in upper case. -/
def upcase : Transform := nullary "upcase" fun v => .ok (.str (Text.uppercase v.toText))

/-- The value that a text writes in JSON, or the text if it writes none.  A blank value becomes
the empty object, and any other value stays. -/
def jsonParse : Transform := fun v params =>
  match params with
  | [] =>
    if v.isBlank then pure (.obj [])
    else
      match v with
      | .str s =>
        match Json.read s with
        | .ok w => pure w
        | .error _ => pure (.str s)
      | v => do
        Reporting.send (.detail "transforms" s!"json_parse received {v.typeName}, passing through")
        pure v
  | params =>
    throw (.invalidArguments "json_parse" s!"expected 0 parameter(s), got {params.length}")

end Reshape.Transform

namespace Reshape

/-! ## 5. All of them -/

namespace TransformRegistry

/-- The transforms that are always there; the latest date has a second, misspelt name. -/
def builtin : TransformRegistry :=
  ⟨[("to_array", Transform.toArray),
    ("downcase", Transform.downcase),
    ("upcase", Transform.upcase),
    ("to_hash", Transform.toHash),
    ("first_array_value", Transform.firstValue),
    ("last_array_value", Transform.lastValue),
    ("max_array_value", Transform.maxValue),
    ("max_datetime_array_value", Transform.maxDatetime),
    ("max_datatime_array_value", Transform.maxDatetime),
    ("uniq_array", Transform.uniqArray),
    ("array_size", Transform.arraySize),
    ("hashes_array_filter", Transform.hashesFilter),
    ("hash_value", Transform.hashValue),
    ("hash_values", Transform.hashValues),
    ("hash_keys", Transform.hashKeys),
    ("array_select_regex", Transform.selectRegex),
    ("json_parse", Transform.jsonParse)]⟩

/-- The names that are looked up without a registry at hand. -/
def defaultNames : List String :=
  ["to_array", "downcase", "upcase", "to_hash", "first_array_value", "last_array_value",
    "max_array_value", "max_datetime_array_value", "max_datatime_array_value", "uniq_array",
    "array_size", "hashes_array_filter", "hash_value", "hash_values", "hash_keys",
    "array_select_regex", "json_parse"]

/-- The list and the registry agree. -/
theorem contains_builtin (name : String) : builtin.contains name = defaultNames.contains name := by
  have hkeys : Entries.keys builtin.entries = defaultNames := rfl
  rw [Bool.eq_iff_iff, contains, Entries.contains_iff, List.contains_iff_mem, hkeys]

end TransformRegistry

end Reshape
