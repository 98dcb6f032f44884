import ProseCheck.Config.Basic
import ProseCheck.FileSystem.Basic
import ProseCheck.Json.Reader
import ProseCheck.Text.Encoding

/-!
# Loading a configuration

The configuration of a run is in the file that is asked for, if there is one, else in the file
`.doclint.json` of the working directory, else it is the built-in one.
-/

namespace ProseCheck.Config

open FileSystem (Path Trouble)

/-- The name of a configuration in the working directory. -/
def fileName : String := ".doclint.json"

/-- Where a configuration comes from. -/
inductive Origin where
  | file (path : Path)
  | builtIn
  deriving DecidableEq, Repr

/-- Why a file holds no configuration. -/
inductive Reason where
  /-- It cannot be read. -/
  | unreadable (path : Path) (trouble : Trouble)
  /-- It is in none of the encodings. -/
  | undecodable (fault : Text.EncodingFault)
  /-- Its text is malformed where `left` code points of it are left. -/
  | malformed (text : Str) (what : Json.Malformation) (left : Nat)
  /-- It holds no object. -/
  | notObject
  /-- It holds an object that is no configuration. -/
  | invalid (fault : Fault)

/-- The wording of a reason. -/
def Reason.message : Reason → String
  | unreadable path trouble => trouble.message path
  | undecodable fault => fault.message
  | malformed text what left => (Json.Fault.malformed what left).message text
  | notObject => "top-level value must be a JSON object"
  | invalid fault => fault.summary

/-- Why a configuration cannot be loaded. -/
inductive LoadFault where
  /-- The file at `path` holds no configuration. -/
  | unusable (path : Path) (reason : Reason)
  /-- The file has an integer with too many digits, which is no fault of the configuration but
  stops the run. -/
  | tooManyDigits (integer : Text.TooManyDigits)

/-- The wording for a file that holds no configuration. -/
def unusableMessage (path : Path) (reason : Reason) : Str :=
  "Error loading config file " ++ path.text ++ ": " ++ reason.message

/-- The wording of a fault. -/
def LoadFault.message : LoadFault → Str
  | unusable path reason => unusableMessage path reason
  | tooManyDigits integer => integer.message

/-- The configuration that the bytes of the file at `path` hold. -/
def ofBytes (path : Path) (bytes : List UInt8) : Except LoadFault Config :=
  match Text.decodeDetected bytes with
  | .error fault => .error (.unusable path (.undecodable fault))
  | .ok text =>
    match Json.readText text with
    | .error (.malformed what left) => .error (.unusable path (.malformed text what left))
    | .error (.tooManyDigits integer) => .error (.tooManyDigits integer)
    | .ok (.object members) =>
      (ofJson (.object members)).mapError fun fault => .unusable path (.invalid fault)
    | .ok _ => .error (.unusable path .notObject)

/-- The configuration in the file at `path`. -/
def ofFile (fs : FileSystem) (path : Path) : Except LoadFault Config :=
  match fs.read path with
  | .error trouble => .error (.unusable path (.unreadable path trouble))
  | .ok bytes => ofBytes path bytes

/-- Where the configuration of a run in `directory` comes from. -/
def origin (fs : FileSystem) (asked : Option Path) (directory : Path) : Origin :=
  match asked.filter fs.pathExists with
  | some path => .file path
  | none =>
    let found := directory.child fileName
    if fs.pathExists found then .file found else .builtIn

/-- The configuration of a run in `directory`. -/
def load (fs : FileSystem) (asked : Option Path) (directory : Path) : Except LoadFault Config :=
  match origin fs asked directory with
  | .file path => ofFile fs path
  | .builtIn => .ok default

/-- What there is to tell about the configuration of a run in `directory`, given how loading it
came out. -/
def loadNotes (fs : FileSystem) (asked : Option Path) (directory : Path)
    (loaded : Except LoadFault Config) : List Str :=
  let fallback :=
    match asked with
    | some path =>
      if fs.pathExists path then []
      else ["Config file " ++ path.text ++ " not found, falling back"]
    | none => []
  let outcome :=
    match origin fs asked directory, loaded with
    | .builtIn, _ => ["Using built-in default configuration"]
    | .file path, .ok config =>
      ["Loaded config from " ++ path.text ++ " (" ++ toString config.rules.length ++ " rules)"]
    | .file _, .error _ => []
  fallback ++ outcome

end ProseCheck.Config
