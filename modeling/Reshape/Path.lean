/-
# Paths into a value

A path is a list of segments, written with slashes between them.  An empty segment stays
where it is, a `*` takes every item of an array, a number takes an item of an array and any
other segment takes the value under a key.  Null counts as absent wherever it is met.

`Path.resolve` answers what a path leads to, if anything, and warns about what it misses.  A
`*` that meets anything but an array is the only failure.  Behind a `*` each item is resolved
along the remaining segments as a path of its own, which is also the path that its warnings
and its failure name.
-/
import Reshape.Json.Basic
import Reshape.Reporting
import Reshape.Text.Digits
import Reshape.Text.Split

namespace Reshape

/-! ## 1. Paths -/

/-- The segments of a path. -/
structure Path where
  segments : List String
deriving DecidableEq, Repr

namespace Path

/-- The segment that takes every item of an array. -/
def wildcard : String := "*"

/-- The path that a text writes. -/
def ofString (s : String) : Path := ⟨Text.split '/' s⟩

/-- A path as it is written. -/
def text (p : Path) : String := Text.join '/' p.segments

@[simp] theorem text_ofString (s : String) : (ofString s).text = s := Text.join_split s

/-- Writing two paths with a slash between them puts their segments together. -/
theorem segments_ofString_append (a b : String) :
    (ofString (a ++ '/'.toString ++ b)).segments = (ofString a).segments ++ (ofString b).segments :=
  Text.split_append a b

/-- Is the last segment a `*`? -/
def endsWithWildcard (p : Path) : Bool := p.segments.getLast? == some wildcard

/-- A `*` met something that is not an array. -/
structure Failure where
  /-- The segments before the `*`. -/
  before : List String
  /-- The path in which it stands. -/
  path : Path
deriving DecidableEq, Repr

/-! ## 2. Warnings -/

/-- The warning that nothing was found. -/
def notFound (p : List String) : String :=
  let whole := Text.join '/' p
  s!"could not find {whole} in input"

/-- The warning that an array has no item of this number. -/
def outOfBounds (segment : String) (p : List String) : String :=
  let whole := Text.join '/' p
  s!"index {segment} went out of bounds while resolving {whole}"

/-! ## 3. Resolution -/

/-- The number that a segment writes: digits, with or without a plus in front. -/
def index? (segment : String) : Option Nat :=
  let digits :=
    match segment.toList with
    | '+' :: cs => cs
    | cs => cs
  if digits.isEmpty || !digits.all Char.isDigit then none
  else some (Text.decimal digits)

/-- A value that is not null. -/
def present : Option Json → Option Json
  | some v => if v.isNull then none else some v
  | none => none

/-- One step from a value along a segment that is neither empty nor a `*`; `whole` is the
path that a warning names. -/
def step (whole : List String) (segment : String) : Json → Reporting Failure (Option Json)
  | .arr items =>
    match (index? segment).bind (items[·]?) with
    | some v => pure (some v)
    | none => do
      Reporting.warn (outOfBounds segment whole)
      pure none
  | .obj entries => pure (Entries.get? segment entries)
  | _ => pure none

/-- What the empty path leads to. -/
def itself (v : Json) : Reporting Failure (Option Json) :=
  if v.isNull then do
    Reporting.warn (notFound [""])
    pure none
  else pure (some v)

/-- Continues along segments from what has been reached; `whole` is the path of which they
are the last segments, and `before` are the segments that have been followed. -/
def resolveFrom (whole before : List String) :
    List String → Option Json → Reporting Failure (Option Json)
  | [], current => pure (present current)
  | segment :: rest, current =>
    match present current with
    | none => do
      Reporting.warn (notFound whole)
      pure none
    | some v =>
      if segment = wildcard then
        match v with
        | .arr items => do
          let found ← items.mapM fun item =>
            if rest.isEmpty then itself item else resolveFrom rest [] rest (some item)
          pure (some (.arr (found.map fun f => f.getD .null)))
        | _ => throw ⟨before, ⟨whole⟩⟩
      else if segment = "" then resolveFrom whole (before ++ [segment]) rest (some v)
      else do
        let child ← step whole segment v
        resolveFrom whole (before ++ [segment]) rest child

/-- What a path leads to from a value; null counts as nothing. -/
def resolve (p : Path) (tree : Json) : Reporting Failure (Option Json) :=
  resolveFrom p.segments [] p.segments (some tree)

end Path

end Reshape
