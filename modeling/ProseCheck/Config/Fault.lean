import ProseCheck.Rule.Basic

/-!
# Faults of a configuration

A configuration is refused with the places in it that are wrong. The fields of one object are all
looked at and their faults are listed together; of the entries of rules the first wrong one counts.
-/

namespace ProseCheck.Config

/-- A step from a value to a part of it. -/
inductive Step where
  | field (name : String)
  | index (i : Nat)
  deriving DecidableEq, Repr

/-- What can be wrong with a value. -/
inductive Problem where
  /-- It is no object. -/
  | notObject
  /-- It is required and not there. -/
  | absent
  /-- It is not the name of a severity. -/
  | notSeverity
  /-- It is no string. -/
  | notString
  /-- It is no list. -/
  | notList
  /-- It is nothing that an integer can be read from. -/
  | notInteger
  /-- It is a string with a surrogate where an integer is read. -/
  | notUnicode
  /-- It is a string that writes no integer. -/
  | notDecimal
  /-- It is an integer that is too large. -/
  | tooLarge
  /-- It is a number with a fraction. -/
  | fractional
  /-- It is not a finite number. -/
  | notFinite
  deriving DecidableEq, Repr

/-- A fault at a place in a value. -/
structure FieldFault where
  /-- The way from the value to the place. -/
  path : List Step
  /-- What is wrong there. -/
  problem : Problem
  deriving DecidableEq, Repr

/-- Why the entry of a rule is refused. -/
inductive EntryFault where
  /-- The entry itself is wrong. -/
  | fields (faults : List FieldFault)
  /-- The arguments are wrong for the rule. -/
  | arguments (rule : Rule) (faults : List FieldFault)
  deriving DecidableEq, Repr

/-- Why a configuration is refused. -/
inductive Fault where
  /-- Its fields are wrong. -/
  | fields (faults : List FieldFault)
  /-- Two keys name the same rule. -/
  | duplicate (first second : Str) (rule : Rule)
  /-- The entry of a rule is wrong. -/
  | entry (key : Str) (fault : EntryFault)
  deriving DecidableEq, Repr

/-- The number of faults. -/
def Fault.count : Fault → Nat
  | fields faults => faults.length
  | duplicate _ _ _ => 1
  | entry _ _ => 1

/-- What is wrong with the rules, if they are what is wrong. -/
def Fault.detail? : Fault → Option Str
  | fields _ => none
  | duplicate first second rule =>
    some ("rules '" ++ first ++ "' and '" ++ second ++ "' both configure '" ++ rule.id ++ "'")
  | entry key _ => some ("invalid rule '" ++ key ++ "'")

/-- A fault in one line. -/
def Fault.summary (f : Fault) : String :=
  toString f.count ++ " validation error" ++ (if f.count = 1 then "" else "s") ++ " for LintConfig"

end ProseCheck.Config
