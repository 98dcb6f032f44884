import ProseCheck.Config.Arguments

/-!
# Configurations

A configuration gives rules, by keys, entries that say how severe a violation is, what to tell the
author and with which arguments to check. Keys that name no rule may have any value, which is kept.
-/

namespace ProseCheck

open Json (Value Members)

/-- The entry of a rule. -/
structure Entry where
  /-- How severe violations are. -/
  level : Severity
  /-- What to tell the author. -/
  message : Str
  /-- The arguments as they were given. -/
  args : Members
  deriving Repr, Inhabited

/-- What a configuration has under a key. -/
inductive Setting where
  /-- An entry that has been read. -/
  | entry (e : Entry)
  /-- A value that has not been read. -/
  | raw (value : Value)
  deriving Repr, Inhabited

/-- A configuration: its settings in the order in which they were given, and the format of
reports. The format is any string; an unknown one shows when a report is rendered. -/
structure Config where
  rules : List (Str × Setting)
  format : Str
  deriving Repr, Inhabited

namespace Entry

/-- Reads an entry from a value. -/
def ofJson : Value → Except (List Config.FieldFault) Entry
  | .object members =>
    let level := Config.required Config.readSeverity members "level"
    let message := Config.required Config.readString members "message"
    let args := Config.optional Config.readObject members "args" []
    match level, message, args with
    | .ok level, .ok message, .ok args => .ok ⟨level, message, args⟩
    | _, _, _ =>
      .error (Config.faultOf level ++ Config.faultOf message ++ Config.faultOf args)
  | _ => .error [⟨[], .notObject⟩]

/-- Reads an entry from a setting; an entry that has been read already is taken as it is. -/
def ofSetting : Setting → Except (List Config.FieldFault) Entry
  | .entry e => .ok e
  | .raw value => ofJson value

/-- Reads the entry of a rule from a setting. Its arguments have to make a check of the rule. -/
def ofRuleSetting (rule : Rule) (setting : Setting) : Except Config.EntryFault Entry :=
  match ofSetting setting with
  | .error faults => .error (.fields faults)
  | .ok e =>
    match rule.check e.args with
    | .error faults => .error (.arguments rule faults)
    | .ok _ => .ok e

end Entry

namespace Config

/-- Reads the settings whose keys name rules, from first to last, and keeps the others. The list
`seen` has the rules of earlier keys with those keys. -/
def readSettings : (seen : List (Rule × Str)) → List (Str × Setting) →
    Except Fault (List (Str × Setting))
  | _, [] => .ok []
  | seen, (key, setting) :: settings =>
    match Rule.ofKey? key with
    | none => (readSettings seen settings).map ((key, setting) :: ·)
    | some rule =>
      match seen.lookup rule with
      | some first => .error (.duplicate first key rule)
      | none =>
        match Entry.ofRuleSetting rule setting with
        | .error fault => .error (.entry key fault)
        | .ok e => (readSettings ((rule, key) :: seen) settings).map ((key, .entry e) :: ·)

/-- The configuration with the given settings and format. -/
def ofSettings (settings : List (Str × Setting)) (format : Str) : Except Fault Config :=
  (readSettings [] settings).map fun rules => ⟨rules, format⟩

/-- Reads a configuration from a value. If the rules are an object, their faults come before all
others. -/
def ofJson : Value → Except Fault Config
  | .object members =>
    let format := optional readString members "format" "text"
    match optional readObject members "rules" [] with
    | .error fault => .error (.fields (fault :: faultOf format))
    | .ok entries =>
      match readSettings [] (entries.map fun (key, value) => (key, .raw value)), format with
      | .error fault, _ => .error fault
      | .ok _, .error fault => .error (.fields [fault])
      | .ok rules, .ok format => .ok ⟨rules, format⟩
  | _ => .error (.fields [⟨[], .notObject⟩])

/-- The configuration of a run that is given none. -/
def default : Config where
  rules := [
    (Rule.headingCase.key, .entry ⟨.warning, "Heading should be in sentence case.", []⟩),
    (Rule.minimumWords.key,
      .entry ⟨.warning, "Sentence may contain too few words", [("min", .int 10)]⟩),
    (Rule.maxWords.key, .entry ⟨.error, "Too many words in sentence.", [("limit", .int 25)]⟩),
    (Rule.maxSentences.key,
      .entry ⟨.error, "Too many sentences in paragraph.", [("limit", .int 5)]⟩),
    (Rule.bannedPhrases.key,
      .entry ⟨.error, "Banned phrase identified.",
        [("phrases", .array [.string "are used to", .string "has been", .string "has finished",
          .string "if you want to"])]⟩)]
  format := "text"

end Config

end ProseCheck
