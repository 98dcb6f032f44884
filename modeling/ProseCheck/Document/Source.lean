import ProseCheck.FileSystem.Basic
import ProseCheck.Markdown.Parse
import ProseCheck.Text.Utf8

/-!
# Sources of documents

A document is read from a text or from a file, which has to hold UTF-8, with a reader of Markdown.
The text is kept as it is, with a byte order mark if it has one.
-/

namespace ProseCheck.Document

open FileSystem (Path Trouble)

/-- A document with the text and the name that it was read from. -/
structure Source where
  /-- The document. -/
  tree : Node
  /-- The text of the document. -/
  text : String
  /-- The name of the document, if it has one. -/
  name : Option Str

namespace Source

/-- Why a document cannot be read. -/
inductive Fault where
  /-- The file cannot be read. -/
  | unreadable (path : Path) (trouble : Trouble)
  /-- The file does not hold UTF-8. -/
  | undecodable (path : Path) (fault : Text.Utf8.Fault)
  /-- The text cannot be parsed. -/
  | unparsable (name : Option Str) (message : String)

/-- The wording for a text that cannot be parsed. An empty name is as good as none. -/
def unparsableMessage (name : Option Str) (message : String) : Str :=
  let name := name.getD []
  "Failed to parse " ++ (if name = [] then Str.ofString "<string>" else name) ++ ": " ++ message

/-- The wording of a fault. -/
def Fault.message : Fault → Str
  | unreadable path trouble => trouble.message path
  | undecodable path fault => path.text ++ " is not valid UTF-8: " ++ fault.message
  | unparsable name message => unparsableMessage name message

/-- Reads a document from a text. -/
def ofText (reader : Markdown.Reader) (text : String) (name : Option Str) : Except Fault Source :=
  match Markdown.parse reader text with
  | .ok tree => .ok ⟨tree, text, name⟩
  | .error message => .error (.unparsable name message)

/-- Reads a document from a file. -/
def ofFile (reader : Markdown.Reader) (fs : FileSystem) (path : Path) : Except Fault Source :=
  match fs.read path with
  | .error trouble => .error (.unreadable path trouble)
  | .ok bytes =>
    match Text.Utf8.decode bytes with
    | .error fault => .error (.undecodable path fault)
    | .ok chars => ofText reader (String.ofList chars) (some path.text)

end Source

end ProseCheck.Document
