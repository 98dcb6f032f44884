import ProseCheck.Config.Field
import ProseCheck.Rule.Check

/-!
# Arguments of rules

The members of a configuration that make a rule a check. Members that a rule does not know are
ignored, and those that are missing have defaults.
-/

namespace ProseCheck

open Json (Value Members)

namespace Config

/-- The faults of the items of a list of strings that starts at the given index. -/
def itemFaults (name : String) : (index : Nat) → List Value → List FieldFault
  | _, [] => []
  | index, item :: items =>
    match readString item with
    | .ok _ => itemFaults name (index + 1) items
    | .error problem =>
      ⟨[.field name, .index index], problem⟩ :: itemFaults name (index + 1) items

/-- The strings among the items of a list. -/
def strings (items : List Value) : List Str :=
  items.filterMap fun item => (readString item).toOption

/-- Reads a list of strings that may be missing. -/
def optionalStrings (members : Members) (name : String) : Except (List FieldFault) (List Str) :=
  match members.lookup (Str.ofString name) with
  | none => .ok []
  | some (.array items) =>
    match itemFaults name 0 items with
    | [] => .ok (strings items)
    | faults => .error faults
  | some _ => .error [⟨[.field name], .notList⟩]

/-- The phrases that can occur in a document: those without surrogates. -/
def phrases (texts : List Str) : List String :=
  texts.filterMap fun text => text.chars?.map String.ofList

/-- Reads an integer that may be missing. -/
def optionalInteger (members : Members) (name : String) (default : Int) :
    Except (List FieldFault) Int :=
  (optional readInteger members name default).mapError fun fault => [fault]

end Config

/-- The check that a rule makes with the given arguments. -/
def Rule.check (rule : Rule) (args : Members) : Except (List Config.FieldFault) Check :=
  match rule with
  | .headingCase => .ok .headingCase
  | .minimumWords => (Config.optionalInteger args "min" 10).map .minimumWords
  | .maxWords => (Config.optionalInteger args "limit" 25).map .maxWords
  | .maxSentences => (Config.optionalInteger args "limit" 5).map .maxSentences
  | .bannedPhrases =>
    (Config.optionalStrings args "phrases").map fun texts => .bannedPhrases (Config.phrases texts)

end ProseCheck
