import ProseCheck.Command.Option
import ProseCheck.FileSystem.Path
import ProseCheck.Text.Integer

/-!
# Invocations

What the arguments of the program ask for: to check files, or to list the rules.
-/

namespace ProseCheck.Command

open FileSystem (Path)

/-- A request to check files. -/
structure LintRequest where
  /-- The files to check, at least one. -/
  files : List Path
  /-- Where the report goes, if not to the standard output. -/
  output : Option Path
  /-- The configuration that is asked for. -/
  config : Option Path
  /-- The number of workers, at least one. It does not change the outcome. -/
  jobs : Int
  deriving DecidableEq, Repr

/-- What the program can be asked for. -/
inductive Task where
  | lint (request : LintRequest)
  | rules
  deriving DecidableEq, Repr

/-- A task, and whether to tell what happens on the way. -/
structure Invocation where
  verbose : Bool
  task : Task
  deriving DecidableEq, Repr

/-- The paths that a task mentions. -/
def Task.paths : Task → List Path
  | .lint request => request.files ++ request.output.toList ++ request.config.toList
  | .rules => []

/-- Where the report of a task goes, if it goes to a file. -/
def Task.output? : Task → Option Path
  | .lint request => request.output
  | .rules => none

/-- The options in front of the task. -/
inductive GeneralOption where
  | verbose
  deriving DecidableEq, Repr

/-- The names of the options in front of the task. -/
def generalOptions : OptionTable GeneralOption where
  short? := fun c => if c = Point.scalar 'v' then some .verbose else none
  long? := fun name => if name = Str.ofString "verbose" then some .verbose else none
  takesValue := fun _ => false

/-- The options of the task to check files. -/
inductive LintOption where
  | output
  | config
  | jobs
  deriving DecidableEq, Repr

/-- The names of the options of the task to check files. -/
def lintOptions : OptionTable LintOption where
  short? := fun c =>
    if c = Point.scalar 'o' then some .output
    else if c = Point.scalar 'j' then some .jobs
    else none
  long? := fun name =>
    if name = Str.ofString "output" then some .output
    else if name = Str.ofString "config" then some .config
    else if name = Str.ofString "jobs" then some .jobs
    else none
  takesValue := fun _ => true

/-- The table of a task without options. -/
def noOptions : OptionTable Empty where
  short? := fun _ => none
  long? := fun _ => none
  takesValue := fun _ => false

/-- The number of workers that a text gives: one if there is none. -/
def readJobs? : Option Str → Option Int
  | none => some 1
  | some s => (s.chars?.bind Text.integer?).filter fun n => 1 ≤ n

/-- Reads the arguments of the task to check files. -/
def readLint? (args : List Str) : Option LintRequest := do
  let scan ← scan lintOptions true none args
  let jobs ← readJobs? (lastValue? .jobs scan.given)
  if scan.operands.isEmpty then none
  else
    some {
      files := scan.operands.map Path.ofText
      output := (lastValue? .output scan.given).map Path.ofText
      config := (lastValue? .config scan.given).map Path.ofText
      jobs }

/-- Reads the arguments of the task to list the rules: there are none. -/
def readRules? (args : List Str) : Option Unit := do
  let scan ← scan noOptions true none args
  if scan.operands.isEmpty then some () else none

/-- Reads a task and its arguments. -/
def readTask? : List Str → Option Task
  | [] => none
  | name :: args =>
    if name = "lint" then (readLint? args).map .lint
    else if name = "rules" then (readRules? args).map fun _ => .rules
    else none

/-- Reads the arguments of the program; gives nothing if they cannot be understood. -/
def readInvocation? (args : List Str) : Option Invocation := do
  let scan ← scan generalOptions false none args
  let task ← readTask? scan.operands
  return ⟨!scan.given.isEmpty, task⟩

end ProseCheck.Command
