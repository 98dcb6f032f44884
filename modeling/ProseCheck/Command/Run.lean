import ProseCheck.Command.Invocation
import ProseCheck.Config.Load
import ProseCheck.Linter
import ProseCheck.Report.Render

/-!
# Running the program

A run is a function of the arguments, the file system and a reader of Markdown. Its outcome is what
the program writes, the file system that it leaves and its exit status.
-/

namespace ProseCheck.Command

open FileSystem (Path)

/-- How much a log record matters. -/
inductive LogLevel where
  | debug
  | warning
  deriving DecidableEq, Repr

/-- The name of a level. -/
def LogLevel.name : LogLevel → String
  | debug => "DEBUG"
  | warning => "WARNING"

/-- The part of the program that writes a log record. -/
inductive LogSource where
  | engine
  | config
  deriving DecidableEq, Repr

/-- The name of a part of the program. -/
def LogSource.name : LogSource → String
  | engine => "doclint_linter.engine"
  | config => "doclint_cli.config"

/-- A record of what happens during a run. -/
structure LogRecord where
  level : LogLevel
  source : LogSource
  message : Str
  deriving DecidableEq, Repr

/-- The line of a log record. -/
def LogRecord.line (r : LogRecord) : Str :=
  "[" ++ r.level.name ++ "] " ++ r.source.name ++ ": " ++ r.message

/-- Whether a record is shown. -/
def LogRecord.isShown (verbose : Bool) (r : LogRecord) : Bool :=
  verbose || r.level != .debug

/-- What breaks off a run without an error of its own. -/
inductive Interruption where
  /-- The configuration has an integer with too many digits. -/
  | tooManyDigits (integer : Text.TooManyDigits)
  /-- A record of the report has surrogates. -/
  | unserializable (lone : Str.Lone)
  /-- The text to be written has surrogates. -/
  | unencodable (lone : Str.Lone)
  deriving DecidableEq, Repr

/-- The wording of an interruption. -/
def Interruption.message : Interruption → String
  | tooManyDigits integer => integer.message
  | unserializable lone =>
    "Error serializing to JSON: UnicodeEncodeError: " ++ Text.unencodableMessage lone
  | unencodable lone => Text.unencodableMessage lone

/-- The outcome of a run. -/
structure Outcome where
  /-- The exit status. -/
  status : Nat
  /-- The text on the standard output. -/
  output : String
  /-- The log records, in the order in which they were made. -/
  log : List LogRecord
  /-- The error that ended the run, if one did. -/
  error : Option Str
  /-- What broke off the run, if something did. -/
  brokenOff : Option Interruption
  /-- The file system after the run. -/
  files : FileSystem

/-- The text on the standard error: the log records that are shown, and the error. Surrogates are
escaped there. -/
def Outcome.errorText (outcome : Outcome) (verbose : Bool) : String :=
  let errors := outcome.error.toList.map fun message => Str.ofString "Error: " ++ message
  let lines := (outcome.log.filter (LogRecord.isShown verbose)).map LogRecord.line ++ errors
  Text.escaped (lines.flatMap fun line => line ++ "\n")

/-- The outcome of a run that an error ends. It writes nothing. -/
def failure (fs : FileSystem) (log : List LogRecord) (message : Str) : Outcome where
  status := 1
  output := ""
  log := log
  error := some message
  brokenOff := none
  files := fs

/-- The outcome of a run that is broken off. It writes nothing to the standard output. -/
def breakOff (fs : FileSystem) (log : List LogRecord) (interruption : Interruption) :
    Outcome where
  status := 1
  output := ""
  log := log
  error := none
  brokenOff := some interruption
  files := fs

/-- The outcome of a run that came to its end. -/
def success (fs : FileSystem) (log : List LogRecord) (output : String) (failed : Bool) :
    Outcome where
  status := if failed then 1 else 0
  output := output
  log := log
  error := none
  brokenOff := none
  files := fs

/-- The log of loading a configuration. -/
def loadLog (fs : FileSystem) (request : LintRequest)
    (loaded : Except Config.LoadFault Config) : List LogRecord :=
  (Config.loadNotes fs request.config fs.workingPath loaded).map fun note =>
    ⟨.debug, .config, note⟩

/-- The log of checking a file, given how checking it came out. A file that cannot be read leaves
no trace. -/
def fileLog (linter : Linter) (path : Path) :
    Except Linter.Fault (List Diagnostic) → List LogRecord
  | .error (.source _) => []
  | .error _ => linter.warnings.map fun message => ⟨.warning, .engine, message⟩
  | .ok diagnostics =>
    linter.warnings.map (fun message => ⟨.warning, .engine, message⟩) ++
      [⟨.debug, .engine,
        path.text ++ ": " ++ toString diagnostics.length ++ " diagnostics"⟩]

/-- The log of checking files one after the other, up to the first one that fails. -/
def filesLog (linter : Linter) (reader : Markdown.Reader) (fs : FileSystem) :
    List Path → List LogRecord
  | [] => []
  | path :: paths =>
    let result := linter.lintFile reader fs path
    fileLog linter path result ++
      match result with
      | .ok _ => filesLog linter reader fs paths
      | .error _ => []

/-- The log of checking files, given how checking them came out. -/
def lintLog (linter : Linter) (reader : Markdown.Reader) (fs : FileSystem) (paths : List Path) :
    Except Linter.Fault (List (Path × List Diagnostic)) → List LogRecord
  | .ok results => results.flatMap fun (path, diagnostics) => fileLog linter path (.ok diagnostics)
  | .error _ => filesLog linter reader fs paths

/-- The wording for files that cannot be checked. -/
def lintFaultMessage : Linter.Fault → Str
  | .source (.unreadable path trouble) => "Error reading file: " ++ trouble.message path
  | .source fault => fault.message
  | .notRead rule => "The entry of " ++ rule.id ++ " has not been read"
  | .arguments rule _ => "The arguments of " ++ rule.id ++ " are wrong"
  | .evaluator message => message

/-- Ends a run with a text on the standard output, which has to be without surrogates. -/
def print (fs : FileSystem) (log : List LogRecord) (text : Str) (failed : Bool) : Outcome :=
  match text.chars with
  | .ok chars => success fs log (String.ofList chars) failed
  | .error lone => breakOff fs log (.unencodable lone)

/-- The bytes that are in a file after a text was to be written to it. The file is emptied before
the text is encoded, so a text with surrogates leaves none. -/
def bytesLeft (text : Str) : List UInt8 :=
  match text.chars with
  | .ok chars => Text.Utf8.encode chars
  | .error _ => []

/-- Delivers the report: to a file if one is asked for, else to the standard output, with a line
feed after it unless it is empty. -/
def deliver (fs : FileSystem) (log : List LogRecord) (output : Option Path) (report : Str)
    (failed : Bool) : Outcome :=
  match output with
  | some path =>
    match fs.write path (bytesLeft report) with
    | .error trouble => failure fs log ("Error writing output: " ++ trouble.message path)
    | .ok written =>
      match report.lone? with
      | some lone => breakOff written log (.unencodable lone)
      | none => print written log ("Output written to " ++ path.text ++ "\n") failed
  | none => print fs log (if report = [] then [] else report ++ "\n") failed

/-- Ends a run, given how checking the files came out: delivers the report in the given format. -/
def conclude (fs : FileSystem) (log : List LogRecord) (output : Option Path) (format : Str) :
    Except Linter.Fault (List (Path × List Diagnostic)) → Outcome
  | .error fault => failure fs log (lintFaultMessage fault)
  | .ok results =>
    match Report.render results format with
    | .error (.unknown format) => failure fs log format.message
    | .error (.unserializable lone) => breakOff fs log (.unserializable lone)
    | .ok report => deliver fs log output report (results.any fun (_, ds) => hasErrors ds)

/-- Checks files and delivers the report. -/
def runLint (reader : Markdown.Reader) (fs : FileSystem) (request : LintRequest) : Outcome :=
  match request.files.find? fun path => !fs.isFile path with
  | some path => failure fs [] ("File not found: " ++ path.text)
  | none =>
    let loaded := Config.load fs request.config fs.workingPath
    let notes := loadLog fs request loaded
    match loaded with
    | .error (.tooManyDigits integer) => breakOff fs notes (.tooManyDigits integer)
    | .error (.unusable path reason) => failure fs notes (Config.unusableMessage path reason)
    | .ok config =>
      let linter : Linter := ⟨config, Registry.standard⟩
      let linted := linter.lintFiles reader fs request.files
      conclude fs (notes ++ lintLog linter reader fs request.files linted) request.output
        config.format linted

/-- The two lines about a rule: its names with its severity by default, and what it asks for. -/
def ruleLines (rule : Rule) (evaluator : Evaluator) : String :=
  let level :=
    match Config.default.rules.lookup (Str.ofString rule.key) with
    | some (.entry entry) => entry.level.name
    | _ => ""
  rule.id ++ " (" ++ rule.key ++ ") [" ++ level ++ "]\n  " ++ evaluator.description ++ "\n"

/-- Lists the rules. -/
def runRules (fs : FileSystem) : Outcome :=
  success fs [] (String.join (Registry.standard.rules.map fun (r, e) => ruleLines r e)) false

/-- Runs the program. -/
def Invocation.run (reader : Markdown.Reader) (fs : FileSystem) (invocation : Invocation) :
    Outcome :=
  match invocation.task with
  | .lint request => runLint reader fs request
  | .rules => runRules fs

/-- The exit status for arguments that cannot be understood. -/
def usageStatus : Nat := 2

end ProseCheck.Command
