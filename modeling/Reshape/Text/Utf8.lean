/-
# Texts as bytes

A character takes one to four bytes in UTF-8.  `Text.byteCount` is the length of a text in
bytes, and `Text.ofBytes?` reads bytes that are the UTF-8 form of some text.
-/

namespace Reshape.Text

/-- The number of bytes of a list of characters in UTF-8. -/
def byteCount (cs : List Char) : Nat := (cs.map Char.utf8Size).foldr (· + ·) 0

@[simp] theorem byteCount_nil : byteCount [] = 0 := rfl

@[simp] theorem byteCount_cons (c : Char) (cs : List Char) :
    byteCount (c :: cs) = c.utf8Size + byteCount cs := rfl

/-- The text of which the bytes are the UTF-8 form. -/
def ofBytes? (bytes : ByteArray) : Option String := String.fromUTF8? bytes

@[simp] theorem ofBytes?_toUTF8 (s : String) : ofBytes? s.toUTF8 = some s :=
  dif_pos s.isValidUTF8

/-- A place in a text: a line, from one, and a column counted in bytes of that line. -/
structure Position where
  line : Nat
  column : Nat
deriving DecidableEq

/-- The place after a number of bytes. -/
def positionAfter (bytes : Nat) (cs : List Char) : Position :=
  go bytes ⟨1, 0⟩ cs
where
  go (bytes : Nat) (at_ : Position) : List Char → Position
    | [] => at_
    | c :: cs =>
      if bytes < c.utf8Size then { at_ with column := at_.column + bytes }
      else if c = '\n' then go (bytes - 1) ⟨at_.line + 1, 0⟩ cs
      else go (bytes - c.utf8Size) { at_ with column := at_.column + c.utf8Size } cs

end Reshape.Text
