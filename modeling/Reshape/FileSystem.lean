/-
# File systems

A file system is a tree of directories and files with a current directory.  A pathname is
followed component by component, and every component but the last must lead to a directory.

Reading and writing are functions of the tree: `readText` answers a text or why there is none,
and `write` answers the tree with one file changed.
-/
import Reshape.Entries
import Reshape.Text.Split
import Reshape.Text.Utf8

namespace Reshape

/-! ## 1. Trees -/

inductive FileItem where
  | file (content : ByteArray)
  | directory (entries : List (String × FileItem))

namespace FileItem

/-- The directory without entries. -/
def emptyDirectory : FileItem := .directory []

def isDirectory : FileItem → Bool
  | directory _ => true
  | file _ => false

/-- The item of a name in a directory. -/
def child? (name : String) : FileItem → Option FileItem
  | directory es => Entries.get? name es
  | file _ => none

/-- The item that names lead to. -/
def follow? (names : List String) (item : FileItem) : Option FileItem :=
  names.foldlM (fun item name => item.child? name) item

/-- Puts an item where names lead; directories on the way are made. -/
def put (new : FileItem) : List String → FileItem → FileItem
  | [], _ => new
  | name :: names, item =>
    let es := match item with
      | directory es => es
      | file _ => []
    directory (Entries.insert name
      (put new names ((Entries.get? name es).getD emptyDirectory)) es)

mutual

/-- The names that lead to the files of a tree. -/
def files : FileItem → List (List String)
  | file _ => [[]]
  | directory es => filesOf es

/-- The names that lead to the files below entries. -/
def filesOf : List (String × FileItem) → List (List String)
  | [] => []
  | (name, item) :: es => (files item).map (name :: ·) ++ filesOf es

end

end FileItem

/-- A tree and the names of its current directory. -/
structure FileSystem where
  root : FileItem
  current : List String

/-! ## 2. Faults -/

/-- Why an item cannot be read or written. -/
inductive FileFault where
  | missing
  | notDirectory
  | isDirectory
  /-- The bytes of a file are no text. -/
  | notText
deriving DecidableEq, Repr

/-- The wording of a fault. -/
def FileFault.message : FileFault → String
  | missing => "No such file or directory (os error 2)"
  | notDirectory => "Not a directory (os error 20)"
  | isDirectory => "Is a directory (os error 21)"
  | notText => "stream did not contain valid UTF-8"

namespace FileSystem

variable (fs : FileSystem)

/-! ## 3. Pathnames -/

/-- Follows one component from the place that names lead to. -/
def walk (names : List String) (component : String) : Except FileFault (List String) :=
  match fs.root.follow? names with
  | some (.directory es) =>
    if component == "" || component == "." then .ok names
    else if component == ".." then .ok names.dropLast
    else if Entries.contains component es then .ok (names ++ [component])
    else .error .missing
  | some (.file _) => .error .notDirectory
  | none => .error .missing

/-- The place where a pathname starts. -/
def start (path : String) : List String :=
  if path.toList.head? = some '/' then [] else fs.current

/-- The names from the root that a pathname leads to. -/
def locate (path : String) : Except FileFault (List String) :=
  if path = "" then .error .missing
  else (Text.split '/' path).foldlM fs.walk (fs.start path)

/-- The item that a pathname leads to. -/
def find? (path : String) : Option FileItem :=
  match fs.locate path with
  | .ok names => fs.root.follow? names
  | .error _ => none

/-- Does a pathname lead to something? -/
def contains (path : String) : Bool := (fs.find? path).isSome

/-! ## 4. Files -/

/-- The text of the file that a pathname leads to. -/
def readText (path : String) : Except FileFault String :=
  match fs.locate path with
  | .error fault => .error fault
  | .ok names =>
    match fs.root.follow? names with
    | some (.file content) =>
      match Text.ofBytes? content with
      | some s => .ok s
      | none => .error .notText
    | some (.directory _) => .error .isDirectory
    | none => .error .missing

/-- Does a pathname end with a name that a file may have? -/
def endsWithName (parts : List String) : Bool :=
  match parts.getLast? with
  | some p => !(p == "" || p == "." || p == "..")
  | none => false

/-- The last part of a pathname that is no mere slash, and the parts before it. -/
def splitLast (path : String) : List String × List String :=
  let parts := Text.split '/' path
  let trimmed := (parts.reverse.dropWhile (· == "")).reverse
  (trimmed.dropLast, parts.drop trimmed.dropLast.length)

/-- The file system with a text in the file that a pathname leads to.  The directory of the
file must be there; the file itself need not. -/
def write (path text : String) : Except FileFault FileSystem :=
  if path = "" then .error .missing
  else do
    let (front, last) := splitLast path
    let names ← front.foldlM fs.walk (fs.start path)
    match fs.root.follow? names, last with
    | some (.directory es), [name] =>
      if !endsWithName [name] then .error .isDirectory
      else
        match Entries.get? name es with
        | some (.directory _) => .error .isDirectory
        | _ =>
          let root := FileItem.put (.file text.toUTF8) (names ++ [name]) fs.root
          pure { fs with root := root }
    | some (.directory _), _ => .error .isDirectory
    | some (.file _), _ => .error .notDirectory
    | none, _ => .error .missing

end FileSystem

end Reshape
