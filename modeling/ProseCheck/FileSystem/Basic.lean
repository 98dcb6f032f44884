import ProseCheck.FileSystem.Path
import ProseCheck.Text.Quoted

/-!
# File systems

A file system as a value: files with their bytes and directories, at locations counted from the
root. A path leads to a location if everything on the way is a directory. There are
locations at which no file may be read, and some at which none may be written.
-/

namespace ProseCheck

namespace FileSystem

/-- A place in the file system: the names on the way from the root. -/
abbrev Location := List Str

/-- What stands at a location. -/
inductive Item where
  | file (content : List UInt8)
  | directory
  deriving DecidableEq, Repr, Inhabited

/-- Why a path cannot be used. -/
inductive Trouble where
  /-- Nothing is there. -/
  | missing
  /-- Something on the way is no directory. -/
  | notDirectory
  /-- A directory is there instead of a file. -/
  | isDirectory
  /-- A file may not be read or written there. -/
  | denied
  deriving DecidableEq, Repr

/-- The wording of a trouble with the given path. -/
def Trouble.message (p : Path) : Trouble → String
  | missing => "[Errno 2] No such file or directory: " ++ Text.quoted p.text
  | notDirectory => "[Errno 20] Not a directory: " ++ Text.quoted p.text
  | isDirectory => "[Errno 21] Is a directory: " ++ Text.quoted p.text
  | denied => "[Errno 13] Permission denied: " ++ Text.quoted p.text

end FileSystem

/-- Files and directories, and the directory in which a run takes place. -/
structure FileSystem where
  /-- What stands at a location; later entries for a location are hidden by earlier ones. -/
  items : List (FileSystem.Location × FileSystem.Item)
  /-- The location at which paths without a root start. -/
  workingDirectory : FileSystem.Location
  /-- Where no file may be read. -/
  unreadable : List FileSystem.Location := []
  /-- Where no file may be written. -/
  unwritable : List FileSystem.Location := []
  deriving Repr, Inhabited

namespace FileSystem

/-- What stands at a location. The root is always a directory. -/
def item? (fs : FileSystem) (location : Location) : Option Item :=
  if location = [] then some .directory else fs.items.lookup location

/-- Puts something at a location, in place of what was there. -/
def set (fs : FileSystem) (location : Location) (item : Item) : FileSystem :=
  { fs with items := (location, item) :: fs.items.filter fun (other, _) => other != location }

/-- The working directory as a path. -/
def workingPath (fs : FileSystem) : Path where
  root := "/"
  parts := fs.workingDirectory

/-- Follows the components of a path from a location. Every location that is left has to be a
directory; what stands at the end is not looked at. -/
def follow (fs : FileSystem) : Location → List Str → Except Trouble Location
  | location, [] => .ok location
  | location, part :: parts =>
    match fs.item? location with
    | none => .error .missing
    | some (.file _) => .error .notDirectory
    | some .directory =>
      follow fs (if part = ".." then location.dropLast else location ++ [part]) parts

/-- The location to which a path leads. -/
def locate (fs : FileSystem) (p : Path) : Except Trouble Location :=
  fs.follow (if p.isAbsolute then [] else fs.workingDirectory) p.parts

/-- What stands at the end of a path. -/
def at? (fs : FileSystem) (p : Path) : Option Item :=
  match fs.locate p with
  | .ok location => fs.item? location
  | .error _ => none

/-- Whether there is anything at the end of a path. -/
def pathExists (fs : FileSystem) (p : Path) : Bool :=
  (fs.at? p).isSome

/-- Whether there is a file at the end of a path. -/
def isFile (fs : FileSystem) (p : Path) : Bool :=
  match fs.at? p with
  | some (.file _) => true
  | _ => false

/-- The bytes of the file at the end of a path. -/
def read (fs : FileSystem) (p : Path) : Except Trouble (List UInt8) :=
  match fs.locate p with
  | .error trouble => .error trouble
  | .ok location =>
    match fs.item? location with
    | none => .error .missing
    | some .directory => .error .isDirectory
    | some (.file content) =>
      if location ∈ fs.unreadable then .error .denied else .ok content

/-- Writes a file at the end of a path, a new one or in place of an old one. -/
def write (fs : FileSystem) (p : Path) (content : List UInt8) : Except Trouble FileSystem :=
  match fs.locate p with
  | .error trouble => .error trouble
  | .ok location =>
    match fs.item? location with
    | some .directory => .error .isDirectory
    | _ =>
      if location ∈ fs.unwritable then .error .denied else .ok (fs.set location (.file content))

/-- Makes the directories on the way from a location that are missing. -/
def makeDirectories (fs : FileSystem) (location : Location) : List Str → FileSystem
  | [] => fs
  | part :: parts =>
    let next := location ++ [part]
    let fs := if (fs.item? next).isSome then fs else fs.set next .directory
    makeDirectories fs next parts

/-- Puts something at the end of a path and makes the directories on the way. -/
def place (fs : FileSystem) (p : Path) (item : Item) : FileSystem :=
  let start := if p.isAbsolute then [] else fs.workingDirectory
  (fs.makeDirectories start p.parts.dropLast).set (start ++ p.parts) item

/-- The file system that has only the way to a working directory. -/
def ofWorkingDirectory (location : Location) : FileSystem :=
  makeDirectories { items := [], workingDirectory := location } [] location

end FileSystem

end ProseCheck
