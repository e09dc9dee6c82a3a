/-
# What can be wrong with a YAML text

A fault of syntax names what was found, where, and, if something was being read at the time,
what that was and where it began.  A fault of content stands at a node of a text that can be
read as such.
-/
import Reshape.Text.Quoted
import Reshape.Yaml.Cursor

namespace Reshape.Yaml

/-! ## 1. Syntax -/

/-- What was being read when a fault was found. -/
inductive Construct where
  | anchor
  | blockCollection
  | blockMapping
  | blockNode
  | blockScalar
  | directive
  | escape
  | flowMapping
  | flowNode
  | flowSequence
  | nextToken
  | node
  | plainScalar
  | quotedScalar
  | simpleKey
  | tag
  | tagDirective
  | tagUri
  | versionDirective
deriving DecidableEq, Repr

def Construct.text : Construct → String
  | anchor => "while scanning an anchor or alias"
  | blockCollection => "while parsing a block collection"
  | blockMapping => "while parsing a block mapping"
  | blockNode => "while parsing a block node"
  | blockScalar => "while scanning a block scalar"
  | directive => "while scanning a directive"
  | escape => "while parsing a quoted scalar"
  | flowMapping => "while parsing a flow mapping"
  | flowNode => "while parsing a flow node"
  | flowSequence => "while parsing a flow sequence"
  | nextToken => "while scanning for the next token"
  | node => "while parsing a node"
  | plainScalar => "while scanning a plain scalar"
  | quotedScalar => "while scanning a quoted scalar"
  | simpleKey => "while scanning a simple key"
  | tag => "while scanning a tag"
  | tagDirective => "while scanning a %TAG directive"
  | tagUri => "while parsing a tag"
  | versionDirective => "while scanning a %YAML directive"

/-- What is wrong. -/
inductive Problem where
  | blockEntryNotAllowed
  | keyNotAllowed
  | valueNotAllowed
  | cannotStartToken
  | keyWithoutColon
  | unknownDirective
  | directiveNameMissing
  | directiveNameCharacter
  | directiveTail
  | versionSeparator
  | versionNumber
  | versionTooLong
  | versionUnsupported
  | versionRepeated
  | tagPrefixRepeated
  | tagMark
  | tagSpace
  | tagEnd
  | tagClose
  | tagUriMissing
  | uriEscape
  | uriLeadByte
  | uriTrailByte
  | tagHandleUndefined
  | anchorCharacter
  | indentZero
  | scalarHeader
  | tabInBlockScalar
  | tabInPlainScalar
  | colonInPlainScalar
  | boundsInQuotedScalar
  | endInQuotedScalar
  | unknownEscape
  | escapeDigits
  | escapeCode
  | documentStartMissing
  | contentMissing
  | dashMissing
  | keyMissing
  | sequenceEndMissing
  | mappingEndMissing
deriving DecidableEq, Repr

def Problem.text : Problem → String
  | blockEntryNotAllowed => "block sequence entries are not allowed in this context"
  | keyNotAllowed => "mapping keys are not allowed in this context"
  | valueNotAllowed => "mapping values are not allowed in this context"
  | cannotStartToken => "found character that cannot start any token"
  | keyWithoutColon => "could not find expected ':'"
  | unknownDirective => "found unknown directive name"
  | directiveNameMissing => "could not find expected directive name"
  | directiveNameCharacter => "found unexpected non-alphabetical character"
  | directiveTail => "did not find expected comment or line break"
  | versionSeparator => "did not find expected digit or '.' character"
  | versionNumber => "did not find expected version number"
  | versionTooLong => "found extremely long version number"
  | versionUnsupported => "found incompatible YAML document"
  | versionRepeated => "found duplicate %YAML directive"
  | tagPrefixRepeated => "found duplicate %TAG directive"
  | tagMark => "did not find expected '!'"
  | tagSpace => "did not find expected whitespace"
  | tagEnd => "did not find expected whitespace or line break"
  | tagClose => "did not find the expected '>'"
  | tagUriMissing => "did not find expected tag URI"
  | uriEscape => "did not find URI escaped octet"
  | uriLeadByte => "found an incorrect leading UTF-8 octet"
  | uriTrailByte => "found an incorrect trailing UTF-8 octet"
  | tagHandleUndefined => "found undefined tag handle"
  | anchorCharacter => "did not find expected alphabetic or numeric character"
  | indentZero => "found an indentation indicator equal to 0"
  | scalarHeader => "did not find expected comment or line break"
  | tabInBlockScalar => "found a tab character where an indentation space is expected"
  | tabInPlainScalar => "found a tab character that violates indentation"
  | colonInPlainScalar => "found unexpected ':'"
  | boundsInQuotedScalar => "found unexpected document indicator"
  | endInQuotedScalar => "found unexpected end of stream"
  | unknownEscape => "found unknown escape character"
  | escapeDigits => "did not find expected hexdecimal number"
  | escapeCode => "found invalid Unicode character escape code"
  | documentStartMissing => "did not find expected <document start>"
  | contentMissing => "did not find expected node content"
  | dashMissing => "did not find expected '-' indicator"
  | keyMissing => "did not find expected key"
  | sequenceEndMissing => "did not find expected ',' or ']'"
  | mappingEndMissing => "did not find expected ',' or '\x7d'"

/-- A place as it is written: line and column from one, or the index in the first column of
the first line. -/
def Mark.text (m : Mark) : String :=
  if m.line = 0 ∧ m.column = 0 then s!"position {m.index}"
  else s!"line {m.line + 1} column {m.column + 1}"

/-- Is a place the start of a text? -/
def Mark.isOrigin (m : Mark) : Bool := m.line == 0 && m.column == 0

/-! ## 2. Content -/

/-- What is wrong with a node. -/
inductive Complaint where
  /-- A node has a tag of its own. -/
  | tagged
  /-- A text is not of the kind that its tag demands. -/
  | notOfKind (text kind : String)
  | numberOutOfRange
  /-- A key is a collection, of this kind. -/
  | keyKind (got : String)
deriving DecidableEq, Repr

def Complaint.text : Complaint → String
  | tagged => "invalid type: enum, expected any valid JSON value"
  | notOfKind text kind => s!"invalid value: string {Text.display text}, expected {kind}"
  | numberOutOfRange => "JSON number out of range"
  | keyKind got => s!"invalid type: {got}, expected a string key"

/-! ## 3. Errors -/

inductive Error where
  /-- The character after this number of bytes may not stand in a text. -/
  | controlCharacter (offset : Nat)
  | syntaxError (problem : Problem) (place : Mark) (context : Option (Construct × Mark))
  | unknownAnchor (place : Mark)
  | severalDocuments
  | tooDeep (place : Mark)
  | tooManyAliases
  | content (complaint : Complaint) (path : String) (place : Mark)
deriving DecidableEq, Repr

/-- A place behind a text, unless it is the start. -/
def placed (text : String) (m : Mark) : String :=
  if m.isOrigin then text else s!"{text} at {m.text}"

def Error.message : Error → String
  | controlCharacter offset =>
    if offset = 0 then "control characters are not allowed"
    else s!"control characters are not allowed at position {offset}"
  | syntaxError problem place context =>
    match context with
    | none => placed problem.text place
    | some (construct, start) =>
      let head := s!"{placed problem.text place}, {construct.text}"
      if start.line = place.line ∧ start.column = place.column then head else placed head start
  | unknownAnchor place => placed "unknown anchor" place
  | severalDocuments =>
    "deserializing from YAML containing more than one document is not supported"
  | tooDeep place => placed "recursion limit exceeded" place
  | tooManyAliases => "repetition limit exceeded"
  | content complaint path place =>
    if path = "." then placed complaint.text place
    else placed s!"{path}: {complaint.text}" place

end Reshape.Yaml
