/-
# Regular expressions in a JSON Schema

The short classes of digits, word characters and blanks mean other sets here than elsewhere:
digits and word characters are those of ASCII, and blanks are a fixed set.  A pattern is
rewritten before it is compiled: each short class becomes the set it stands for.

A pattern may look around.  What it looks for behind a place must be of one length, or a choice
of such.
-/
import Reshape.Regex.Compile

namespace Reshape.JsonSchema.Pattern

/-- The characters that count as blanks, as items of a set. -/
def blanks : List Char :=
  [0x09, 0x0A, 0x0B, 0x0C, 0x0D, 0x20, 0xA0, 0x1680, 0x2000].map Char.ofNat ++ ['-'] ++
    [0x200A, 0x2028, 0x2029, 0x202F, 0x205F, 0x3000, 0xFEFF].map Char.ofNat

/-- The items of the set that a short class stands for. -/
def classItems? : Char → Option (Bool × List Char)
  | 'd' => some (false, "0-9".toList)
  | 'D' => some (true, "0-9".toList)
  | 'w' => some (false, "A-Za-z0-9_".toList)
  | 'W' => some (true, "A-Za-z0-9_".toList)
  | 's' => some (false, blanks)
  | 'S' => some (true, blanks)
  | _ => none

/-- The control character that a letter stands for. -/
def control? (c : Char) : Option Char :=
  if c.isAlpha then some (Char.ofNat (c.toNat % 32)) else none

/-- A pattern with its short classes written out. -/
def expand : List Char → List Char
  | [] => []
  | '\\' :: 'c' :: l :: cs =>
    match control? l with
    | some d => d :: expand cs
    | none => '\\' :: 'c' :: l :: expand cs
  | '\\' :: c :: cs =>
    match classItems? c with
    | some (negated, items) =>
      '[' :: (if negated then ['^'] else []) ++ items ++ ']' :: expand cs
    | none => '\\' :: c :: expand cs
  | c :: cs => c :: expand cs

/-- The number of characters that an expression matches, if it is always the same. -/
def length? : Regex → Option Nat
  | .empty => some 0
  | .set _ => some 1
  | .look _ => some 0
  | .lookAt _ _ _ => some 0
  | .group _ r => length? r
  | .seq a b => do
    let m ← length? a
    let n ← length? b
    pure (m + n)
  | .alt a b => do
    let m ← length? a
    let n ← length? b
    if m = n then pure m else none
  | .rep r min max => if max = some min then (length? r).map (min * ·) else none

/-- Is an expression of one length, or a choice of such? -/
def isChoiceOfLengths : Regex → Bool
  | .alt a b => (length? a).isSome && isChoiceOfLengths b
  | r => (length? r).isSome

/-- Does an expression look behind a place for what is of one length, or a choice of such? -/
def looksBehindFixed : Regex → Bool
  | .empty => true
  | .set _ => true
  | .look _ => true
  | .lookAt .ahead _ r => looksBehindFixed r
  | .lookAt .behind _ r => isChoiceOfLengths r && looksBehindFixed r
  | .group _ r => looksBehindFixed r
  | .seq a b => looksBehindFixed a && looksBehindFixed b
  | .alt a b => looksBehindFixed a && looksBehindFixed b
  | .rep r _ _ => looksBehindFixed r

/-- The regular expression that a pattern writes. -/
def compile? (pattern : String) : Option Regex :=
  match Regex.compile (String.ofList (expand pattern.toList)) true with
  | .ok r => if looksBehindFixed r then some r else none
  | .error _ => none

end Reshape.JsonSchema.Pattern
