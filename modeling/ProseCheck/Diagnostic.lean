import ProseCheck.Text.Point

/-!
# Diagnostics

A diagnostic is one violation of one rule: where it is, which rule it violates, how severe the
configuration makes it and what the configuration says about it.
-/

namespace ProseCheck

/-- How severe a violation is. Only an error makes a run fail. -/
inductive Severity where
  | info
  | warning
  | error
  deriving DecidableEq, Repr, Inhabited

namespace Severity

/-- All severities. -/
def all : List Severity :=
  [info, warning, error]

/-- The name of a severity in configurations and reports. -/
def name : Severity → String
  | info => "info"
  | warning => "warning"
  | error => "error"

/-- The severity with the given name, spelled exactly. -/
def ofName? (s : Str) : Option Severity :=
  all.find? fun severity => Str.ofString severity.name == s

end Severity

/-- A violation of a rule. -/
structure Diagnostic where
  /-- The line of the violation, zero if its position is unknown. -/
  line : Int
  /-- The identifier of the rule. -/
  rule : Str
  /-- How severe the violation is. -/
  severity : Severity
  /-- What to tell the author. -/
  message : Str
  deriving DecidableEq, Repr, Inhabited

/-- Whether some diagnostic is an error. -/
def hasErrors (diagnostics : List Diagnostic) : Bool :=
  diagnostics.any fun d => d.severity == .error

end ProseCheck
