/-
# Regular expressions from text

`Regex.compile` reads a regular expression and refuses those that grow too large.
-/
import Reshape.Regex.Parser
import Reshape.Regex.Size

namespace Reshape

/-- Why a text is no usable regular expression. -/
inductive RegexError where
  /-- A fault in characters `start` to `stop` of the pattern. -/
  | malformed (pattern : String) (fault : Regex.SyntaxFault) (start stop : Nat)
  | tooBig
deriving DecidableEq, Repr

/-- The wording of an error: for a fault, the pattern with the place marked below it. -/
def RegexError.message : RegexError → String
  | malformed pattern fault start stop =>
    "regex parse error:\n    " ++ pattern ++ "\n    " ++ "".pushn ' ' start ++
      "".pushn '^' (max 1 (stop - start)) ++ "\nerror: " ++ fault.message
  | tooBig => s!"Compiled regex exceeds size limit of {Regex.sizeLimit} bytes."

/-- The regular expression that a text writes, which may look around or may not. -/
def Regex.compile (pattern : String) (lookAround : Bool := false) : Except RegexError Regex :=
  let cs := pattern.toList
  match Regex.parse cs lookAround with
  | .error stop =>
    .error (.malformed pattern stop.fault (cs.length - stop.start) (cs.length - stop.stop))
  | .ok r => if r.tooBig then .error .tooBig else .ok r

end Reshape
