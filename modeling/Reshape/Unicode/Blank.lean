/-
# Blank texts

A character is white if it has the property White_Space.  A text is blank if it holds white
characters only.
-/
import Reshape.Unicode.Property
import Reshape.Unicode.Ranges

namespace Reshape.Text

/-- The white characters. -/
def whiteSet : Unicode.Ranges := Unicode.Ranges.ofText Unicode.Property.whiteSpace

/-- Is a character white? -/
def isWhite (c : Char) : Bool := whiteSet.mem c

/-- Does a text hold white characters only? -/
def isBlank (s : String) : Bool := s.toList.all isWhite

end Reshape.Text
