import ProseCheck.Rule.Check

/-!
# The registry of evaluators

A registry says by which evaluator a rule is checked. The standard one has an evaluator for every
rule of the catalog; an evaluator can be replaced.
-/

namespace ProseCheck

open Document

/-- The way in which a rule is checked. -/
structure Evaluator where
  /-- What the rule asks for. -/
  description : String
  /-- The nodes of a document that violate a check, or the reason why they cannot be told. -/
  flagged : Check → Node → Except String (List Node)

/-- The evaluator that belongs to a rule. -/
def Rule.evaluator (r : Rule) : Evaluator where
  description := r.description
  flagged := fun check tree => .ok (check.flagged tree)

/-- The evaluators of the rules. -/
structure Registry where
  /-- The evaluator of a rule, if there is one. -/
  evaluator? : Rule → Option Evaluator

namespace Registry

/-- The registry without evaluators. -/
def empty : Registry where
  evaluator? := fun _ => none

/-- Makes `evaluator` the evaluator of `rule`. -/
def register (registry : Registry) (rule : Rule) (evaluator : Evaluator) : Registry where
  evaluator? := fun r => if r = rule then some evaluator else registry.evaluator? r

/-- The registry of the given rules with their own evaluators. -/
def ofRules (rules : List Rule) : Registry :=
  rules.foldl (fun registry r => registry.register r r.evaluator) empty

/-- The registry of the whole catalog. -/
def standard : Registry :=
  ofRules Rule.catalog

/-- The rule that a key names and its evaluator. A key that names no rule has none. -/
def get? (registry : Registry) (key : Str) : Option (Rule × Evaluator) :=
  (Rule.ofKey? key).bind fun r => (registry.evaluator? r).map fun e => (r, e)

/-- The rules that have an evaluator, in the order of the catalog. -/
def rules (registry : Registry) : List (Rule × Evaluator) :=
  Rule.catalog.filterMap fun r => (registry.evaluator? r).map fun e => (r, e)

/-- The rules of the catalog that have no evaluator. -/
def missing (registry : Registry) : List Rule :=
  Rule.catalog.filter fun r => (registry.evaluator? r).isNone

/-- The wording for rules without an evaluator. -/
def missingMessage (rules : List Rule) : String :=
  "No evaluator registered for: " ++ ", ".intercalate (rules.map Rule.id)

/-- Builds a registry of the given rules, which have to be the whole catalog; fails with the rules
that are missing. -/
def build (rules : List Rule) : Except (List Rule) Registry :=
  let registry := ofRules rules
  if registry.missing.isEmpty then .ok registry else .error registry.missing

end Registry

end ProseCheck
