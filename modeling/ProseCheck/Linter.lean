import ProseCheck.Config.Basic
import ProseCheck.Document.Source
import ProseCheck.Rule.Registry

/-!
# The linter

A linter runs the rules of a configuration, by the evaluators of a registry, over documents. The
diagnostics of a document are in the order of their lines, and in the order of the configuration
within a line. Keys without an evaluator are skipped with a warning.
-/

namespace ProseCheck

open Document FileSystem

/-- A configuration with the evaluators of its rules. -/
structure Linter where
  /-- What to check. -/
  config : Config
  /-- How to check it. -/
  registry : Registry

namespace Linter

/-- Why a document cannot be checked. -/
inductive Fault where
  /-- The document cannot be read. -/
  | source (fault : Source.Fault)
  /-- The setting of a rule is no entry that has been read. -/
  | notRead (rule : Rule)
  /-- The arguments of a rule are wrong. -/
  | arguments (rule : Rule) (faults : List Config.FieldFault)
  /-- An evaluator gave up. -/
  | evaluator (message : String)

/-- The diagnostic for a node that a rule flags. -/
def diagnostic (rule : Rule) (entry : Entry) (n : Node) : Diagnostic where
  line := n.lineNumber
  rule := rule.id
  severity := entry.level
  message := entry.message

/-- The diagnostics of one rule, in the order in which its evaluator flags nodes. -/
def evaluate (rule : Rule) (evaluator : Evaluator) (entry : Entry) (tree : Node) :
    Except Fault (List Diagnostic) :=
  match rule.check entry.args with
  | .error faults => .error (.arguments rule faults)
  | .ok check =>
    match evaluator.flagged check tree with
    | .error message => .error (.evaluator message)
    | .ok flagged => .ok (flagged.map (diagnostic rule entry))

/-- A rule to be run: its evaluator and its setting. -/
structure Job where
  rule : Rule
  evaluator : Evaluator
  setting : Setting

/-- The diagnostics of a job. -/
def Job.run (tree : Node) (job : Job) : Except Fault (List Diagnostic) :=
  match job.setting with
  | .entry entry => evaluate job.rule job.evaluator entry tree
  | .raw _ => .error (.notRead job.rule)

/-- The rules to be run, in the order of the configuration. -/
def jobs (linter : Linter) : List Job :=
  linter.config.rules.filterMap fun (key, setting) =>
    (linter.registry.get? key).map fun (rule, evaluator) => ⟨rule, evaluator, setting⟩

/-- The keys that are skipped, in the order of the configuration. -/
def skippedKeys (linter : Linter) : List Str :=
  (linter.config.rules.map Prod.fst).filter fun key => (linter.registry.get? key).isNone

/-- The warning for a key that is skipped. -/
def skippedMessage (key : Str) : Str :=
  "Unknown rule: " ++ key ++ " (skipped)"

/-- The warnings of a run over a document. -/
def warnings (linter : Linter) : List Str :=
  linter.skippedKeys.map skippedMessage

/-- Puts diagnostics in the order of their lines. The order within a line stays. -/
def sortByLine (diagnostics : List Diagnostic) : List Diagnostic :=
  diagnostics.mergeSort fun a b => decide (a.line ≤ b.line)

/-- The diagnostics of a document. -/
def lint (linter : Linter) (tree : Node) : Except Fault (List Diagnostic) :=
  match linter.jobs.mapM (Job.run tree) with
  | .error fault => .error fault
  | .ok results => .ok (sortByLine results.flatten)

/-- The diagnostics of the document in a file. -/
def lintFile (linter : Linter) (reader : Markdown.Reader) (fs : FileSystem) (path : Path) :
    Except Fault (List Diagnostic) :=
  match Source.ofFile reader fs path with
  | .error fault => .error (.source fault)
  | .ok source => linter.lint source.tree

/-- The diagnostics of the documents in several files, up to the first one that fails. -/
def lintFiles (linter : Linter) (reader : Markdown.Reader) (fs : FileSystem) (paths : List Path) :
    Except Fault (List (Path × List Diagnostic)) :=
  paths.mapM fun path => (linter.lintFile reader fs path).map fun diagnostics => (path, diagnostics)

end Linter

end ProseCheck
