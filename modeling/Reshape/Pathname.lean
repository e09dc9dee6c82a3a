/-
# Names of files

A pathname is a text with slashes in it.  Its components are the names between the slashes;
repeated slashes and dots that stand for the same directory do not count, apart from a dot at
the very start.
-/
import Reshape.Text.Split

namespace Reshape.Pathname

/-! ## 1. Components -/

/-- Does a part between slashes stand for nothing? -/
def isIdle (part : String) : Bool := part == "" || part == "."

/-- The parts of a pathname, each with the mark whether it is a component. -/
def parts (path : String) : List (String × Bool) :=
  match Text.split '/' path with
  | [] => []
  | first :: rest =>
    let head := if first = "" then (first, !rest.isEmpty) else (first, true)
    head :: rest.map fun p => (p, !isIdle p)

/-- The components of a pathname; an absolute one starts with an empty component. -/
def components (path : String) : List String :=
  ((parts path).filter Prod.snd).map Prod.fst

/-- The name of the file that a pathname leads to; dots and the root are no names. -/
def fileName? (path : String) : Option String :=
  match (components path).getLast? with
  | some name => if name == "" || name == "." || name == ".." then none else some name
  | none => none

/-- What is behind the last dot of a name, if there is something in front of that dot. -/
def extensionOf? (name : String) : Option String :=
  match Text.splitChars '.' name.toList with
  | [] => none
  | [_] => none
  | first :: rest =>
    if first.isEmpty && rest.length = 1 then none else rest.getLast?.map String.ofList

/-- The extension of the file that a pathname leads to. -/
def extension? (path : String) : Option String := (fileName? path).bind extensionOf?

/-! ## 2. Pathnames from pathnames -/

/-- The pathname of a name in a directory. -/
def join (directory name : String) : String :=
  if directory = "" || directory.toList.getLast? = some '/' then directory ++ name
  else directory ++ "/" ++ name

/-- The parts behind the first `n` components. -/
def dropComponents : Nat → List (String × Bool) → List (String × Bool)
  | 0, ps => ps
  | _ + 1, [] => []
  | n + 1, (_, counts) :: ps => dropComponents (if counts then n else n + 1) ps

/-- The pathname of parts, without those at its end that stand for nothing; `inside` tells
whether something is in front of them. -/
def ofParts (inside : Bool) (ps : List (String × Bool)) : String :=
  let ps := if inside then ps.dropWhile fun p => isIdle p.1 else ps
  Text.join '/' ((ps.reverse.dropWhile fun p => !p.2).reverse.map Prod.fst)

/-- A pathname as it is seen from a directory in front of it; a pathname that does not start
with the components of the directory is left as it is. -/
def relativeTo (directory path : String) : String :=
  let front := components directory
  if front.isPrefixOf (components path) then
    ofParts (!front.isEmpty) (dropComponents front.length (parts path))
  else path

end Reshape.Pathname
