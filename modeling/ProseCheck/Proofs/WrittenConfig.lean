import ProseCheck.Proofs.Validation

/-!
# Writing a configuration back

Validation reads the entry of a rule from a value, and takes an entry that has been read already as
it is. Settings that it reads alike can stand in for each other: they make the same configuration or
are refused for the same fault. So a configuration that has been accepted is accepted again and does
not change, from its own settings and from the value that it is written as.
-/

namespace ProseCheck

open Json (Value Members)

/-- The value that an entry is written as. -/
def Entry.toJson (e : Entry) : Value :=
  .object [("level", .string e.level.name), ("message", .string e.message),
    ("args", .object e.args)]

/-- The value that a setting is written as. A value that has not been read is written as it is. -/
def Setting.toJson : Setting → Value
  | .entry e => e.toJson
  | .raw value => value

/-- The member that a setting is written as. -/
def Config.writeSetting (s : Str × Setting) : Str × Value :=
  (s.1, s.2.toJson)

/-- The value that a configuration is written as. -/
def Config.toJson (c : Config) : Value :=
  .object [("rules", .object (c.rules.map writeSetting)), ("format", .string c.format)]

/-- An entry is read from the value that it is written as. -/
theorem Entry.ofJson_toJson (e : Entry) : Entry.ofJson e.toJson = .ok e :=
  ofJson_eq_ok_iff.mpr ⟨_, rfl, rfl, rfl, .inl rfl⟩

namespace Config

/-! ### Settings that are read alike -/

/-- Two settings that reading does not tell apart. -/
inductive ReadAlike : Str × Setting → Str × Setting → Prop where
  /-- A setting and itself. -/
  | same (s : Str × Setting) : ReadAlike s s
  /-- Two settings of a rule that give the same entry, or none for the same faults. -/
  | entry {key : Str} {rule : Rule} {setting setting' : Setting}
      (hkey : Rule.ofKey? key = some rule)
      (hentry : Entry.ofSetting setting = Entry.ofSetting setting') :
      ReadAlike (key, setting) (key, setting')

/-- Settings that are read alike one by one are read alike, whatever rules have been seen. -/
theorem readSettings_congr {settings settings' : List (Str × Setting)}
    (halike : List.Forall₂ ReadAlike settings settings') (seen : List (Rule × Str)) :
    readSettings seen settings = readSettings seen settings' := by
  induction halike generalizing seen with
  | nil => rfl
  | cons h _ ih =>
    cases h with
    | same => simp only [readSettings, ih]
    | entry hkey hentry => simp only [readSettings, hkey, Entry.ofRuleSetting, hentry, ih]

/-- What reading makes of a setting is read alike. -/
theorem SettingRead.readAlike {given read : Str × Setting} (h : SettingRead given read) :
    ReadAlike given read := by
  cases h with
  | kept _ => exact .same _
  | entry hkey he => exact .entry hkey (Entry.ofRuleSetting_eq_ok_iff.mp he).1

/-- Settings that have been read are read again and do not change. -/
theorem readSettings_of_read {settings out : List (Str × Setting)}
    (hok : readSettings [] settings = .ok out) : readSettings [] out = .ok out := by
  have halike : List.Forall₂ ReadAlike settings out :=
    (forall₂_settingRead_of_readSettings hok).imp fun _ _ h => h.readAlike
  rw [← readSettings_congr halike]
  exact hok

/-! ### The written value -/

/-- What is written back for a member of the rules. -/
inductive Rewritten : Str × Value → Str × Value → Prop where
  /-- A value whose key names no rule is unchanged. -/
  | unknown {key : Str} {value : Value} (hkey : Rule.ofKey? key = none) :
      Rewritten (key, value) (key, value)
  /-- The entry of a rule is written with the level, the message and the arguments that were
  given, and nothing else. -/
  | known {key : Str} {value : Value} {rule : Rule} {e : Entry}
      (hkey : Rule.ofKey? key = some rule) (hgives : Entry.Gives value e) :
      Rewritten (key, value) (key, e.toJson)

section Keeps

variable {member : Str × Value} {read : Str × Setting}

/-- A setting that was read from a member is written as that member, up to what reading ignores. -/
theorem Keeps.rewritten (h : Keeps member read) : Rewritten member (writeSetting read) := by
  cases h with
  | unknown hkey => exact .unknown hkey
  | known hkey hgives => exact .known hkey hgives

/-- A setting that was read from a member is read alike when it is written back. -/
theorem Keeps.readAlike (h : Keeps member read) :
    ReadAlike read (read.1, .raw read.2.toJson) := by
  cases h with
  | unknown _ => exact .same _
  | known hkey _ => exact .entry hkey (Entry.ofJson_toJson _).symm

/-- Settings that were read from members are read alike when they are written back. -/
theorem forall₂_readAlike_written {members : Members} {out : List (Str × Setting)}
    (hkeeps : List.Forall₂ Keeps members out) :
    List.Forall₂ ReadAlike out (rawSettings (out.map writeSetting)) := by
  induction hkeeps with
  | nil => exact .nil
  | cons h _ ih => exact .cons h.readAlike ih

end Keeps

/-- The rules of a written configuration are its written settings. -/
theorem hasRules_toJson (c : Config) : HasRules c.toJson (c.rules.map writeSetting) :=
  ⟨_, rfl, .inl rfl⟩

/-- The format is read back from what is written of it. -/
theorem readFormat_toJson (c : Config) : readFormat c.toJson = .ok c.format := by
  have hformat : member? c.toJson "format" = some (.string c.format) := rfl
  rw [readFormat, hformat]

/-- A configuration that has been accepted is accepted again and does not change, both from its own
settings and from the value that it is written as. That value has the keys of the given one in their
order, what stands under unknown keys unchanged, and of the entries of rules what was read of
them. -/
theorem ofJson_accepts_own_output {v : Value} {c : Config} (hc : ofJson v = .ok c) :
    ofSettings c.rules c.format = .ok c ∧ ofJson c.toJson = .ok c ∧
      List.Forall₂ Rewritten (ruleMembers v) (ruleMembers c.toJson) := by
  obtain ⟨_, _, hread, _⟩ := ofJson_eq_ok_iff.mp hc
  have hagain := readSettings_of_read hread
  have hkeeps := forall₂_keeps_of_readSettings hread
  refine ⟨?_, ?_, ?_⟩
  · rw [ofSettings, hagain]
    rfl
  · rw [(hasRules_toJson c).ofJson_eq_ok_iff]
    refine ⟨?_, readFormat_toJson c⟩
    rw [← readSettings_congr (forall₂_readAlike_written hkeeps)]
    exact hagain
  · have hmembers : ruleMembers c.toJson = c.rules.map writeSetting := rfl
    rw [hmembers, List.forall₂_map_right_iff]
    exact hkeeps.imp fun _ _ h => h.rewritten

/-- A configuration with a key in a mixture of spellings, members that reading ignores, an unknown
key and neither arguments for one of its rules nor a format. -/
def mixedSpellings : Value :=
  .object [("version", .int 2), ("rules", .object [
    ("minimumWords-in-sentence", .object [("since", .null), ("args", .object
      [("min", .string " 1_2 "), ("note", .array [])]), ("message", .string "Short."),
      ("level", .string "info")]),
    ("spelling", .array [.bool true]),
    ("headingCase", .object [("level", .string "error"), ("message", .string "")])])]

/-- The argument is written as it was given, and the members that were ignored are gone. -/
theorem ofJson_accepts_own_output_mixed :
    ∃ c, ofJson mixedSpellings = .ok c ∧ ofSettings c.rules c.format = .ok c ∧
      c.toJson = .object [("rules", .object [
        ("minimumWords-in-sentence", .object [("level", .string "info"),
          ("message", .string "Short."), ("args", .object
            [("min", .string " 1_2 "), ("note", .array [])])]),
        ("spelling", .array [.bool true]),
        ("headingCase", .object [("level", .string "error"), ("message", .string ""),
          ("args", .object [])])]), ("format", .string "text")] ∧
      ofJson c.toJson = .ok c := by
  have hc : ofJson mixedSpellings = .ok ⟨[
      ("minimumWords-in-sentence", .entry ⟨.info, "Short.",
        [("min", .string " 1_2 "), ("note", .array [])]⟩),
      ("spelling", .raw (.array [.bool true])), ("headingCase", .entry ⟨.error, "", []⟩)],
      "text"⟩ := rfl
  obtain ⟨hsettings, hvalue, _⟩ := ofJson_accepts_own_output hc
  exact ⟨_, hc, hsettings, rfl, hvalue⟩

end Config

end ProseCheck
