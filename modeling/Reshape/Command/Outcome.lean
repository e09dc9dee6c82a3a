/-
# Outcomes of commands

A command reads a file system and ends with an exit code, the lines it prints, and the file
system as it leaves it.
-/
import Reshape.FileSystem

namespace Reshape

/-- What a command leaves behind. -/
structure Outcome where
  exitCode : Nat
  /-- The lines on standard output. -/
  printed : List String
  /-- The lines on standard error. -/
  complaints : List String
  files : FileSystem

namespace Outcome

/-- Lines as they are written: each with the end of its line. -/
def textOf (lines : List String) : String := String.join (lines.map (· ++ "\n"))

/-- The text on standard output. -/
def stdout (o : Outcome) : String := textOf o.printed

/-- The text on standard error. -/
def stderr (o : Outcome) : String := textOf o.complaints

@[simp] theorem stdout_of_nil {o : Outcome} (h : o.printed = []) : o.stdout = "" := by
  simp [stdout, textOf, h]

end Outcome

end Reshape
