/-
# The program

The program takes a snapshot of the files that its arguments name, runs the command against the
snapshot, and then writes what the command has written.  All else is decided by the command.
-/
import Reshape.Command.Run

namespace Reshape.Snapshot

/-- What an entry of a directory holds; directories are empty unless `deep` is set. -/
partial def read (deep : Bool) (entry : IO.FS.DirEntry) : IO FileItem := do
  if ← entry.path.isDir then
    if deep then
      let children ← entry.path.readDir
      let items ← children.toList.mapM fun child => do
        pure (child.fileName, ← read deep child)
      return .directory items
    else return .emptyDirectory
  else return .file (← IO.FS.readBinFile entry.path)

/-- The names that the parts of a pathname lead to. -/
def namesOf (start : List String) (parts : List String) : List String :=
  parts.foldl (fun names part =>
    if part = "" || part = "." then names
    else if part = ".." then names.dropLast
    else names ++ [part]) start

/-- Adds what a pathname leads to, and the directories on the way. -/
def add (deep : Bool) (fs : FileSystem) (path : String) : IO FileSystem := do
  let parts := Text.split '/' path
  let here ← IO.currentDir
  let mut root := fs.root
  for n in List.range parts.length do
    let front := parts.take (n + 1)
    let names := namesOf (fs.start path) front
    let entry : IO.FS.DirEntry := ⟨here, Text.join '/' front⟩
    if names ≠ [] && (← entry.path.pathExists) then
      let isLast := n + 1 == parts.length
      if (root.follow? names).isNone || (isLast && deep) then
        root := FileItem.put (← read (isLast && deep) entry) names root
  return { fs with root := root }

/-- The files that a request is about. -/
def ofRequest (request : Request) : IO FileSystem := do
  let current := namesOf [] (Text.split '/' (← IO.currentDir).toString)
  let fs : FileSystem := ⟨FileItem.put .emptyDirectory current .emptyDirectory, current⟩
  let deep := match request with
    | .lint _ => true
    | .apply _ => false
  (request.sources.filter (!Source.isUrl ·) ++ request.target?.toList).foldlM (add deep) fs

end Reshape.Snapshot

namespace Reshape

/-- Writes what a successful command has written. -/
def writeTarget (request : Request) (outcome : Outcome) : IO UInt32 := do
  match request.target? with
  | some path =>
    if outcome.exitCode = 0 then
      match outcome.files.readText path with
      | .ok text =>
        try
          IO.FS.writeFile path text
          return 0
        catch e =>
          IO.eprintln s!"Error writing to {path}: {e}"
          return 3
      | .error _ => return 3
    else return outcome.exitCode.toUInt32
  | none => return outcome.exitCode.toUInt32

/-- Runs a command line against the files of the machine. -/
def execute (args : List String) : IO UInt32 := do
  match Invocation.ofArguments args with
  | .error e =>
    IO.eprint (e.outcome ⟨.emptyDirectory, []⟩).stderr
    return 2
  | .ok i =>
    let outcome := i.outcome (← Snapshot.ofRequest i.request) i.level
    IO.eprint outcome.stderr
    IO.print outcome.stdout
    writeTarget i.request outcome

end Reshape

def main (args : List String) : IO UInt32 := Reshape.execute args
