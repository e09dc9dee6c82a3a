/-
# Loading documents

A document is a text in one of two formats, which a name decides by its ending.  `Source.read`
turns a text into a value, `Source.loadFile` reads a file, and `Source.load` also takes what
looks like an address on the web, which nothing is ever found at.  Each of them is given the
readers of the two formats; without a word about them, they are the ones of this library.
-/
import Reshape.FileSystem
import Reshape.Json.Reader
import Reshape.Yaml.Reader

namespace Reshape

/-! ## 1. Formats -/

/-- The format of a text. -/
inductive Format where
  | json
  | yaml
deriving DecidableEq, Repr

/-- The name of a format. -/
def Format.name : Format → String
  | json => "json"
  | yaml => "yaml"

/-- The endings of names of YAML texts. -/
def Format.yamlEndings : List (List Char) := [['.', 'y', 'a', 'm', 'l'], ['.', 'y', 'm', 'l']]

/-- The format that a name decides: YAML if the name, up to the first question mark or number
sign and without regard to case, has one of the endings. -/
def Format.ofName (name : String) : Format :=
  let stem := (name.toList.map Char.toLower).takeWhile fun c => c != '?' && c != '#'
  if yamlEndings.any fun e => e.isSuffixOf stem then .yaml else .json

/-! ## 2. Errors -/

/-- Why a document cannot be loaded. -/
inductive LoadError where
  | notFound (path : String)
  | unreadable (path : String) (fault : FileFault)
  | invalidJson (e : Json.SyntaxError)
  | invalidYaml (e : Yaml.Error)
deriving DecidableEq

namespace LoadError

def message : LoadError → String
  | notFound path => s!"file not found: {path}"
  | unreadable path fault => s!"cannot read {path}: {fault.message}"
  | invalidJson e => s!"invalid JSON: {e.message}"
  | invalidYaml e => s!"invalid YAML: {e.message}"

/-- Faults of files and faults of texts have exit codes of their own. -/
def exitCode : LoadError → Nat
  | notFound _ => 3
  | unreadable _ _ => 3
  | invalidJson _ => 2
  | invalidYaml _ => 2

end LoadError

/-! ## 3. Loading -/

namespace Source

/-- The readers of the two formats. -/
structure Readers where
  json : String → Except Json.SyntaxError Json
  yaml : String → Except Yaml.Error Json

/-- The readers of this library. -/
def Readers.builtin : Readers where
  json := Json.read
  yaml := Yaml.read

/-- The value that a text in a format writes. -/
def read (format : Format) (text : String) (readers : Readers := .builtin) :
    Except LoadError Json :=
  match format with
  | .json => (readers.json text).mapError .invalidJson
  | .yaml => (readers.yaml text).mapError .invalidYaml

/-- The value that a file writes, in the format that its name decides. -/
def loadFile (fs : FileSystem) (path : String) (readers : Readers := .builtin) :
    Except LoadError Json :=
  if !fs.contains path then .error (.notFound path)
  else
    match fs.readText path with
    | .ok text => read (.ofName path) text readers
    | .error fault => .error (.unreadable path fault)

/-- Does a source look like an address on the web? -/
def isUrl (source : String) : Bool :=
  "http://".toList.isPrefixOf source.toList || "https://".toList.isPrefixOf source.toList

/-- The value that a source writes. -/
def load (fs : FileSystem) (source : String) (readers : Readers := .builtin) :
    Except LoadError Json :=
  if isUrl source then .error (.notFound source) else loadFile fs source readers

end Source

end Reshape
