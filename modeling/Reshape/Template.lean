/-
# Templates with placeholders

A template is a text in which `[%name%]` stands for the parameter of that name.  An opening
mark belongs with the next closing mark; what stands between them is the name.  A template is
cut into pieces first (`Template.pieces`), without a look at any parameter, and the pieces are
then written one by one: a slot of a known name as the parameter in lower case, all else as
it was.  So text that is put in is never read again.
-/
import Reshape.Json.Basic
import Reshape.Unicode.Case

namespace Reshape

/-- Parameters of templates: names with values. -/
abbrev Parameters := Entries String

namespace Template

/-! ## 1. Pieces -/

/-- A piece of a template. -/
inductive Piece where
  | text (cs : List Char)
  | slot (name : List Char)
deriving DecidableEq, Repr

/-- Cuts at the first place where the character `a` stands right before `b`: what is before
them and what is behind. -/
def cutAt (a b : Char) : List Char → Option (List Char × List Char)
  | [] => none
  | [_] => none
  | c :: d :: cs =>
    if c = a ∧ d = b then some ([], cs)
    else (cutAt a b (d :: cs)).map fun p => (c :: p.1, p.2)

/-- A cut loses the two characters at which it is made. -/
theorem cutAt_eq {a b : Char} {cs before after : List Char}
    (h : cutAt a b cs = some (before, after)) : cs = before ++ a :: b :: after := by
  induction cs generalizing before with
  | nil => simp [cutAt] at h
  | cons c cs ih =>
    cases cs with
    | nil => simp [cutAt] at h
    | cons d cs =>
      by_cases hc : c = a ∧ d = b
      · simp [cutAt, hc] at h
        simp [hc, ← h.1, h.2]
      · simp only [cutAt, hc, if_false, Option.map_eq_some_iff, Prod.mk.injEq] at h
        obtain ⟨⟨p, q⟩, hp, rfl, rfl⟩ := h
        rw [ih hp]; rfl

theorem length_of_cutAt {a b : Char} {cs before after : List Char}
    (h : cutAt a b cs = some (before, after)) : after.length < cs.length := by
  rw [cutAt_eq h]; simp; omega

/-- The pieces of a template, in order.  An opening mark without a closing mark behind it is
text, like all that follows. -/
def pieces (cs : List Char) : List Piece :=
  match _h : cutAt '[' '%' cs with
  | none => [.text cs]
  | some (before, inside) =>
    match _h' : cutAt '%' ']' inside with
    | none => [.text cs]
    | some (name, after) => .text before :: .slot name :: pieces after
termination_by cs.length
decreasing_by
  have := length_of_cutAt _h
  have := length_of_cutAt _h'
  omega

/-! ## 2. Writing -/

/-- A piece as it stood in the template. -/
def Piece.source : Piece → List Char
  | text cs => cs
  | slot name => '[' :: '%' :: name ++ ['%', ']']

/-- A piece under parameters: a slot of a known name becomes the parameter in lower case. -/
def Piece.render (params : Parameters) : Piece → List Char
  | text cs => cs
  | slot name =>
    match params.get? (String.ofList name) with
    | some value => (Text.lowercase value).toList
    | none => (slot name).source

/-- A template with its known placeholders replaced. -/
def substitute (template : String) (params : Parameters) : String :=
  String.ofList ((pieces template.toList).flatMap (Piece.render params))

/-- A value with its placeholders replaced: texts are templates, other values stay, and so
does everything if there are no parameters. -/
def fill (params : Parameters) : Json → Json
  | .str s => if params.isEmpty then .str s else .str (substitute s params)
  | v => v

/-- The pieces of a template make up the template. -/
theorem source_pieces (cs : List Char) : (pieces cs).flatMap Piece.source = cs := by
  fun_induction pieces cs with
  | case1 cs h => simp [Piece.source]
  | case2 cs before inside h h' => simp [Piece.source]
  | case3 cs before inside h name after h' ih =>
    rw [List.flatMap_cons, List.flatMap_cons, ih, cutAt_eq h, cutAt_eq h']
    simp [Piece.source]

end Template

end Reshape
