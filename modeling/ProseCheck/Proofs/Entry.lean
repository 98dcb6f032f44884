import ProseCheck.Config.Basic

/-!
# What an entry is read from

A member that is read has the value that the reader of its kind takes. An entry is read from an
object whose members give its level and its message, and its arguments unless it has none.
-/

namespace ProseCheck

open Json (Value Members)

/-- A severity is found by its own name only. -/
theorem Severity.ofName?_eq_some_iff {s : Str} {severity : Severity} :
    Severity.ofName? s = some severity ↔ s = severity.name := by
  constructor
  · intro h
    have hname := List.find?_some h
    exact (beq_iff_eq.mp hname).symm
  · rintro rfl
    cases severity <;> decide

namespace Config

/-- A severity is read from its name. -/
theorem readSeverity_eq_ok_iff {value : Value} {severity : Severity} :
    readSeverity value = .ok severity ↔ value = .string severity.name := by
  cases value with
  | string s =>
    simp only [readSeverity, Value.string.injEq]
    rw [← Severity.ofName?_eq_some_iff]
    cases Severity.ofName? s <;> simp
  | _ => simp [readSeverity]

/-- A string is read from itself. -/
theorem readString_eq_ok_iff {value : Value} {s : Str} :
    readString value = .ok s ↔ value = .string s := by
  cases value <;> simp [readString]

/-- Members are read from the object that has them. -/
theorem readObject_eq_ok_iff {value : Value} {members : Members} :
    readObject value = .ok members ↔ value = .object members := by
  cases value <;> simp [readObject]

section Members

variable {α : Type} {read : Value → Except Problem α} {members : Members} {name : String}

/-- A reading of a member succeeds as its reader does. -/
theorem readMember_eq_ok_iff {value : Value} {a : α} :
    readMember read name value = .ok a ↔ read value = .ok a := by
  unfold readMember
  cases read value with
  | ok b =>
    constructor
    · intro h
      rw [Except.ok.inj h]
    · intro h
      rw [Except.ok.inj h]
      rfl
  | error problem => exact ⟨nofun, nofun⟩

/-- A required member is read from its value. -/
theorem required_eq_ok_iff {a : α} :
    required read members name = .ok a ↔
      ∃ value, members.lookup (Str.ofString name) = some value ∧ read value = .ok a := by
  unfold required
  cases members.lookup (Str.ofString name) with
  | none => simp
  | some value => simp [readMember_eq_ok_iff]

/-- An optional member is read from its value, or is not there and has its default. -/
theorem optional_eq_ok_iff {default a : α} :
    optional read members name default = .ok a ↔
      (∃ value, members.lookup (Str.ofString name) = some value ∧ read value = .ok a) ∨
        members.lookup (Str.ofString name) = none ∧ a = default := by
  unfold optional
  cases members.lookup (Str.ofString name) with
  | none => simp [eq_comm]
  | some value => simp [readMember_eq_ok_iff]

end Members

end Config

namespace Entry

/-- A value gives an entry: it is an object that has the level and the message of the entry, and
its arguments unless there are none. -/
def Gives (value : Value) (e : Entry) : Prop :=
  ∃ members, value = .object members ∧
    members.lookup (Str.ofString "level") = some (.string e.level.name) ∧
    members.lookup (Str.ofString "message") = some (.string e.message) ∧
    (members.lookup (Str.ofString "args") = some (.object e.args) ∨
      members.lookup (Str.ofString "args") = none ∧ e.args = [])

/-- An entry is read from an object exactly when its three members are read. -/
private theorem ofJson_object_eq_ok_iff {members : Members} {e : Entry} :
    ofJson (.object members) = .ok e ↔
      Config.required Config.readSeverity members "level" = .ok e.level ∧
      Config.required Config.readString members "message" = .ok e.message ∧
      Config.optional Config.readObject members "args" [] = .ok e.args := by
  obtain ⟨level, message, args⟩ := e
  simp only [ofJson]
  cases Config.required Config.readSeverity members "level" with
  | error fault => simp
  | ok l =>
    cases Config.required Config.readString members "message" with
    | error fault => simp
    | ok m => cases Config.optional Config.readObject members "args" [] <;> simp

/-- An entry is read from exactly the values that give it. -/
theorem ofJson_eq_ok_iff {value : Value} {e : Entry} :
    ofJson value = .ok e ↔ Gives value e := by
  constructor
  · intro h
    cases value with
    | object members =>
      obtain ⟨hlevel, hmessage, hargs⟩ := ofJson_object_eq_ok_iff.mp h
      simp only [Config.required_eq_ok_iff, Config.optional_eq_ok_iff,
        Config.readSeverity_eq_ok_iff, Config.readString_eq_ok_iff, Config.readObject_eq_ok_iff,
        exists_eq_right] at hlevel hmessage hargs
      exact ⟨members, rfl, hlevel, hmessage, hargs⟩
    | _ => simp [ofJson] at h
  · rintro ⟨members, rfl, hlevel, hmessage, hargs⟩
    rw [ofJson_object_eq_ok_iff]
    simp only [Config.required_eq_ok_iff, Config.optional_eq_ok_iff,
      Config.readSeverity_eq_ok_iff, Config.readString_eq_ok_iff, Config.readObject_eq_ok_iff,
      exists_eq_right]
    exact ⟨hlevel, hmessage, hargs⟩

/-- The entry of a rule is read from a setting that gives it with arguments that make a check. -/
theorem ofRuleSetting_eq_ok_iff {rule : Rule} {setting : Setting} {e : Entry} :
    ofRuleSetting rule setting = .ok e ↔
      ofSetting setting = .ok e ∧ ∃ check, rule.check e.args = .ok check := by
  unfold ofRuleSetting
  cases ofSetting setting with
  | error faults => simp
  | ok e' =>
    constructor
    · intro h
      cases hcheck : rule.check e'.args with
      | error faults => simp [hcheck] at h
      | ok check =>
        obtain rfl : e' = e := by simpa [hcheck] using h
        exact ⟨rfl, check, hcheck⟩
    · rintro ⟨he, check, hcheck⟩
      obtain rfl : e' = e := by simpa using he
      simp [hcheck]

end Entry

end ProseCheck
