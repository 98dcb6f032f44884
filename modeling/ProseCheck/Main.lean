import ProseCheck.Command.Run

/-!
# The command line

Takes a picture of the part of the file system that a run may look at, runs the program on it, and
carries out what the outcome says.
-/

namespace ProseCheck

open FileSystem (Item Location Path)

/-- The bytes of a file of the machine, if it can be read. -/
def observeFile (name : String) : IO (Option (List UInt8)) :=
  try
    return some (← IO.FS.readBinFile name).toList
  catch _ =>
    return none

/-- Adds what the file system of the machine has at a path, which leads to a location, to a picture
of it. -/
def addAt (fs : FileSystem) (location : Location) (path : Path) : IO FileSystem := do
  let place := (← IO.currentDir) / Text.escaped path.text
  if ← place.isDir then return fs.set location .directory
  if ← place.pathExists then
    match ← observeFile place.toString with
    | some content => return fs.set location (.file content)
    | none =>
      return { fs.set location (.file []) with unreadable := location :: fs.unreadable }
  return fs

/-- Adds what the file system of the machine has at a path to a picture of it. -/
def addObserved (fs : FileSystem) (path : Path) : IO FileSystem := do
  match fs.locate path with
  | .ok location => addAt fs location path
  | .error _ => return fs

/-- A picture of what the file system of the machine has at the paths of a task. -/
def picture (task : Command.Task) : IO FileSystem := do
  let working := Path.ofText (← IO.currentDir).toString
  let paths := working.child Config.fileName :: task.paths
  (paths.flatMap Path.onTheWay).foldlM addObserved (FileSystem.ofWorkingDirectory working.parts)

/-- Writes the report of a run to the file that it goes to. -/
def writeReport (task : Command.Task) (outcome : Command.Outcome) : IO Unit := do
  match task.output?, outcome.error, outcome.brokenOff with
  | some path, none, none
  | some path, none, some (.unencodable _) =>
    match outcome.files.at? path with
    | some (.file content) => IO.FS.writeBinFile (Text.escaped path.text) ⟨content.toArray⟩
    | _ => return
  | _, _, _ => return

/-- Runs the program with the given arguments; gives its exit status. -/
def runArguments (args : List String) : IO UInt32 := do
  match Command.readInvocation? (args.map Str.ofString) with
  | none =>
    IO.eprintln "Usage: [-v] lint FILE... [-o PATH] [--config PATH] [-j N] | [-v] rules"
    return Command.usageStatus.toUInt32
  | some invocation =>
    let outcome := invocation.run Markdown.commonMark (← picture invocation.task)
    writeReport invocation.task outcome
    IO.print outcome.output
    IO.eprint (outcome.errorText invocation.verbose)
    match outcome.brokenOff with
    | some interruption => IO.eprintln interruption.message
    | none => pure ()
    return outcome.status.toUInt32

end ProseCheck

/-- Runs the program. -/
def main (args : List String) : IO UInt32 :=
  ProseCheck.runArguments args
