import ProseCheck.FileSystem.Path
import ProseCheck.Json.Writer
import ProseCheck.Report.Line
import ProseCheck.Text.Quoted

/-!
# Reports

The diagnostics of files, in the order in which they are given, as lines of text or as a JSON array
of records. The report of several files is one list in either format. A JSON report holds no
surrogates.
-/

namespace ProseCheck.Report

open FileSystem (Path)

/-- The formats of reports. -/
inductive Format where
  | text
  | json
  deriving DecidableEq, Repr

/-- The format with the given name. -/
def Format.ofName? (name : Str) : Option Format :=
  if name = "text" then some .text else if name = "json" then some .json else none

/-- The name of a format that does not exist. -/
structure UnknownFormat where
  name : Str
  deriving DecidableEq, Repr

/-- The wording for a format that does not exist. -/
def UnknownFormat.message (f : UnknownFormat) : String :=
  "Unknown output format: " ++ Text.quoted f.name ++ " (expected 'text' or 'json')"

/-- A diagnostic with the name of its file. -/
structure Record where
  file : Str
  diagnostic : Diagnostic
  deriving DecidableEq, Repr

/-- The texts of a record that come from outside, in the order in which they are written. -/
def Record.texts (r : Record) : List Str :=
  [r.file, r.diagnostic.rule, r.diagnostic.message]

/-- A record as a JSON object. -/
def Record.toJson (r : Record) : Json.Value :=
  .object [("file", .string r.file), ("line", .int r.diagnostic.line),
    ("rule", .string r.diagnostic.rule), ("severity", .string r.diagnostic.severity.name),
    ("message", .string r.diagnostic.message)]

/-- The text of a list of records. -/
def recordsText (records : List Record) : Str :=
  Json.render (.array (records.map Record.toJson))

/-- The lines of the diagnostics of a file, without a line feed at the end. -/
def linesText (file : Path) (diagnostics : List Diagnostic) : Str :=
  List.intercalate "\n" (diagnostics.map (writeLine file.name))

/-- The records of the diagnostics of a file. -/
def recordsOf (file : Path) (diagnostics : List Diagnostic) : List Record :=
  diagnostics.map fun d => ⟨file.name, d⟩

/-- The report of one file. -/
inductive FileReport where
  | lines (text : Str)
  | records (records : List Record)
  deriving DecidableEq, Repr

/-- The report of one file in the format with the given name. -/
def fileReport (file : Path) (diagnostics : List Diagnostic) (format : Str) :
    Except UnknownFormat FileReport :=
  match Format.ofName? format with
  | some .text => .ok (.lines (linesText file diagnostics))
  | some .json => .ok (.records (recordsOf file diagnostics))
  | none => .error ⟨format⟩

/-- Why there is no report. -/
inductive Fault where
  /-- The format does not exist. -/
  | unknown (format : UnknownFormat)
  /-- A text of a record has surrogates. -/
  | unserializable (lone : Str.Lone)
  deriving DecidableEq, Repr

/-- The first run of surrogates in the texts of records. -/
def loneIn? (records : List Record) : Option Str.Lone :=
  (records.flatMap Record.texts).findSome? Str.lone?

/-- The report of several files in the format with the given name. Files without diagnostics leave
no trace. The report of no files at all is the same in all formats but JSON, known or not. -/
def render (results : List (Path × List Diagnostic)) (format : Str) : Except Fault Str :=
  match Format.ofName? format with
  | some .json =>
    let records := results.flatMap fun (file, ds) => recordsOf file ds
    match loneIn? records with
    | some lone => .error (.unserializable lone)
    | none => .ok (recordsText records)
  | some .text =>
    .ok (List.intercalate "\n" ((results.map fun (file, ds) => linesText file ds).filter (· != [])))
  | none => if results.isEmpty then .ok [] else .error (.unknown ⟨format⟩)

end ProseCheck.Report
