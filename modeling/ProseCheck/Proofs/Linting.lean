import ProseCheck.Linter
import ProseCheck.Proofs.Validation

/-!
# Linting with an accepted configuration

Validation and linting look up rules and arguments on their own. For an accepted configuration both
find the same, so linting never fails: its diagnostics are those of the checks that the entries
make, and the keys that it skips are those that validation left alone.
-/

namespace ProseCheck

open Document
open Json (Value)

/-- The linter of a configuration that has an evaluator for every rule. -/
def Linter.standard (c : Config) : Linter :=
  ⟨c, .standard⟩

/-- Every rule of the catalog has its own evaluator in the standard registry. -/
theorem Registry.standard_evaluator? (rule : Rule) :
    Registry.standard.evaluator? rule = some rule.evaluator := by
  cases rule <;> rfl

/-- The standard registry finds what a key names, with its evaluator. -/
theorem Registry.standard_get? (key : Str) :
    Registry.standard.get? key = (Rule.ofKey? key).map fun rule => (rule, rule.evaluator) := by
  unfold Registry.get?
  cases Rule.ofKey? key with
  | none => rfl
  | some rule => simp [Registry.standard_evaluator?]

/-- A rule that a configuration asks for, with its entry and the check that the entry makes. -/
@[ext]
structure Assignment where
  rule : Rule
  entry : Entry
  check : Check

namespace Assignment

/-- The assignment of a setting, if its key names a rule and it is an entry with right
arguments. -/
def ofSetting? : Str × Setting → Option Assignment
  | (key, .entry e) =>
    match Rule.ofKey? key with
    | none => none
    | some rule =>
      match rule.check e.args with
      | .error _ => none
      | .ok check => some ⟨rule, e, check⟩
  | (_, .raw _) => none

/-- The job of an assignment in a linter with the standard registry. -/
def job (a : Assignment) : Linter.Job :=
  ⟨a.rule, a.rule.evaluator, .entry a.entry⟩

/-- The diagnostics of an assignment. -/
def diagnostics (tree : Node) (a : Assignment) : List Diagnostic :=
  (a.check.flagged tree).map (Linter.diagnostic a.rule a.entry)

/-- Where an assignment comes from. -/
theorem ofSetting?_eq_some_iff {key : Str} {setting : Setting} {a : Assignment} :
    ofSetting? (key, setting) = some a ↔
      Rule.ofKey? key = some a.rule ∧ setting = .entry a.entry ∧
        a.rule.check a.entry.args = .ok a.check := by
  obtain ⟨rule, e, check⟩ := a
  cases setting with
  | raw value => simp [ofSetting?]
  | entry e' =>
    simp only [ofSetting?, Setting.entry.injEq]
    cases Rule.ofKey? key with
    | none => simp
    | some rule' =>
      cases hcheck : rule'.check e'.args with
      | error faults =>
        simp only [hcheck, reduceCtorEq, false_iff, Option.some.injEq]
        rintro ⟨rfl, rfl, hok⟩
        simp [hcheck] at hok
      | ok check' =>
        simp only [hcheck, Option.some.injEq, Assignment.mk.injEq]
        constructor
        · rintro ⟨rfl, rfl, rfl⟩
          exact ⟨rfl, rfl, hcheck⟩
        · rintro ⟨rfl, rfl, hok⟩
          rw [hcheck] at hok
          exact ⟨rfl, rfl, Except.ok.inj hok⟩

/-- The job of an assignment whose check its entry makes gives the diagnostics of the
assignment. -/
theorem run_job {a : Assignment} (hcheck : a.rule.check a.entry.args = .ok a.check)
    (tree : Node) : a.job.run tree = .ok (a.diagnostics tree) := by
  simp [job, Linter.Job.run, Linter.evaluate, hcheck, Rule.evaluator, diagnostics]

end Assignment

namespace Config

/-- The rules that a configuration asks for, in its order. -/
def assignments (c : Config) : List Assignment :=
  c.rules.filterMap Assignment.ofSetting?

/-- The keys under which a configuration has values that have not been read. -/
def rawKeys (c : Config) : List Str :=
  c.rules.filterMap fun
    | (key, .raw _) => some key
    | (_, .entry _) => none

/-- The entry of an assignment makes its check. -/
theorem check_of_mem_assignments {c : Config} {a : Assignment} (hmem : a ∈ c.assignments) :
    a.rule.check a.entry.args = .ok a.check := by
  obtain ⟨⟨key, setting⟩, _, hsetting⟩ := List.mem_filterMap.mp hmem
  exact (Assignment.ofSetting?_eq_some_iff.mp hsetting).2.2

/-- The jobs of a well-formed configuration are those of its assignments. A setting whose key names
no rule has neither. -/
theorem Wellformed.jobs_eq {c : Config} (hc : c.Wellformed) :
    (Linter.standard c).jobs = c.assignments.map Assignment.job := by
  rw [Linter.jobs, Linter.standard, assignments, List.map_filterMap]
  apply List.filterMap_congr
  rintro ⟨key, setting⟩ hmem
  simp only [Registry.standard_get?]
  cases hkey : Rule.ofKey? key with
  | none =>
    have hnone : Assignment.ofSetting? (key, setting) = none := by
      cases setting <;> simp [Assignment.ofSetting?, hkey]
    simp [hnone]
  | some rule =>
    obtain ⟨e, check, rfl, hcheck⟩ := hc.known key setting rule hmem hkey
    have hsome : Assignment.ofSetting? (key, .entry e) = some ⟨rule, e, check⟩ :=
      Assignment.ofSetting?_eq_some_iff.mpr ⟨hkey, rfl, hcheck⟩
    simp [hsome, Assignment.job]

end Config

/-- Running over a list succeeds when it does on every element. -/
private theorem mapM_eq_ok {α β ε : Type} {f : α → Except ε β} {g : α → β} {l : List α}
    (hok : ∀ a ∈ l, f a = .ok (g a)) : l.mapM f = .ok (l.map g) := by
  induction l with
  | nil => rfl
  | cons a l ih =>
    have hhead := hok a (by simp)
    have htail := ih fun b hb => hok b (by simp [hb])
    rw [List.mapM_cons, hhead, htail]
    rfl

/-- Linting with a well-formed configuration gives the diagnostics of its assignments, sorted by
line. -/
theorem Config.Wellformed.lint_eq {c : Config} (hc : c.Wellformed) (tree : Node) :
    (Linter.standard c).lint tree =
      .ok (Linter.sortByLine (c.assignments.flatMap (Assignment.diagnostics tree))) := by
  have hrun : ∀ a ∈ c.assignments, Linter.Job.run tree a.job = .ok (a.diagnostics tree) :=
    fun a ha => Assignment.run_job (check_of_mem_assignments ha) tree
  have hmapM : (Linter.standard c).jobs.mapM (Linter.Job.run tree) =
      .ok (c.assignments.map (Assignment.diagnostics tree)) := by
    rw [hc.jobs_eq, List.mapM_map]
    exact mapM_eq_ok hrun
  rw [Linter.lint, hmapM, List.flatMap_def]

/-! ### Configurations that are read from a value -/

section Read

variable {v : Value} {c : Config}

/-- The setting at a place is what validation makes of the member at that place. -/
theorem Config.exists_ruleMember_of_getElem? (hc : Config.ofJson v = .ok c) {i : ℕ} {key : Str}
    {setting : Setting} (hat : c.rules[i]? = some (key, setting)) :
    ∃ value, (Config.ruleMembers v)[i]? = some (key, value) ∧
      Config.SettingRead (key, .raw value) (key, setting) := by
  have hread := (Config.ofJson_eq_ok_iff.mp hc).2.2.1
  have hreads := Config.forall₂_settingRead_of_readSettings hread
  obtain ⟨given, hgiven, hsetting⟩ := Config.exists_settingRead_of_getElem? hreads hat
  rw [Config.rawSettings, List.getElem?_map, Option.map_eq_some_iff] at hgiven
  obtain ⟨⟨key', value⟩, hmember, rfl⟩ := hgiven
  have hkey : key' = key := by cases hsetting <;> rfl
  subst hkey
  exact ⟨value, hmember, hsetting⟩

/-- The registry finds nothing under a key exactly when validation kept the value under it. -/
theorem Config.SettingRead.get?_eq_none_iff {key : Str} {value : Value} {setting : Setting}
    (hread : Config.SettingRead (key, .raw value) (key, setting)) :
    Registry.standard.get? key = none ↔ setting = .raw value := by
  rw [Registry.standard_get?, Option.map_eq_none_iff]
  cases hread with
  | kept hkey => simp [hkey]
  | entry hkey he => simp [hkey]

/-- What the registry finds under a key is the rule for which validation read the entry. -/
theorem Config.SettingRead.entry_of_get? {key : Str} {value : Value} {setting : Setting}
    {rule : Rule} {evaluator : Evaluator}
    (hread : Config.SettingRead (key, .raw value) (key, setting))
    (hget : Registry.standard.get? key = some (rule, evaluator)) :
    ∃ e check, setting = .entry e ∧ Entry.ofRuleSetting rule (.raw value) = .ok e ∧
      rule.check e.args = .ok check := by
  rw [Registry.standard_get?, Option.map_eq_some_iff] at hget
  obtain ⟨rule', hrule, heq⟩ := hget
  obtain ⟨rfl, rfl⟩ : rule' = rule ∧ rule'.evaluator = evaluator := by simpa using heq
  cases hread with
  | kept hkey => simp [hrule] at hkey
  | entry hkey he =>
    rw [hrule] at hkey
    obtain rfl := Option.some.inj hkey
    obtain ⟨_, check, hcheck⟩ := Entry.ofRuleSetting_eq_ok_iff.mp he
    exact ⟨_, check, rfl, he, hcheck⟩

/-- The keys that linting skips are those whose values validation kept. -/
theorem Linter.skippedKeys_eq_rawKeys (hc : Config.ofJson v = .ok c) :
    (Linter.standard c).skippedKeys = c.rawKeys := by
  rw [Linter.skippedKeys, Linter.standard, Config.rawKeys, ← List.filterMap_eq_filter,
    List.filterMap_map]
  apply List.filterMap_congr
  rintro ⟨key, setting⟩ hmem
  obtain ⟨i, hat⟩ := List.mem_iff_getElem?.mp hmem
  obtain ⟨value, _, hread⟩ := Config.exists_ruleMember_of_getElem? hc hat
  cases hread with
  | kept hkey => simp [Option.guard, Registry.standard_get?, hkey]
  | entry hkey he => simp [Option.guard, Registry.standard_get?, hkey]

/-- Linting with a configuration that is read from a value succeeds on every document. The registry
finds nothing under a key exactly when validation kept its value; what it finds otherwise is the
rule for which validation read the entry, and the arguments make the check that they made then. So
every job has an entry that was read and gives its diagnostics, and the warnings are those of the
keys whose values were kept. -/
theorem Linter.lint_succeeds_of_ofJson (hc : Config.ofJson v = .ok c) (tree : Node) :
    (∃ ds, (Linter.standard c).lint tree = .ok ds) ∧
    (∀ (i : ℕ) (key : Str) (setting : Setting), c.rules[i]? = some (key, setting) →
      ∃ value, (Config.ruleMembers v)[i]? = some (key, value) ∧
        (Registry.standard.get? key = none ↔ setting = .raw value) ∧
        ∀ rule evaluator, Registry.standard.get? key = some (rule, evaluator) →
          ∃ e check, setting = .entry e ∧ Entry.ofRuleSetting rule (.raw value) = .ok e ∧
            rule.check e.args = .ok check) ∧
    (∀ job ∈ (Linter.standard c).jobs,
      ∃ e check, job.setting = .entry e ∧ job.rule.check e.args = .ok check ∧
        job.run tree = .ok ((check.flagged tree).map (Linter.diagnostic job.rule e))) ∧
    (Linter.standard c).warnings =
      c.rawKeys.map fun key => Str.ofString "Unknown rule: " ++ key ++ " (skipped)" := by
  have hwf := (Config.Accepted.read hc).wellformed
  refine ⟨⟨_, hwf.lint_eq tree⟩, ?_, ?_, ?_⟩
  · intro i key setting hat
    obtain ⟨value, hmember, hread⟩ := Config.exists_ruleMember_of_getElem? hc hat
    exact ⟨value, hmember, hread.get?_eq_none_iff, fun rule evaluator => hread.entry_of_get?⟩
  · intro job hjob
    rw [hwf.jobs_eq] at hjob
    obtain ⟨a, ha, rfl⟩ := List.mem_map.mp hjob
    have hcheck := Config.check_of_mem_assignments ha
    exact ⟨a.entry, a.check, rfl, hcheck, Assignment.run_job hcheck tree⟩
  · rw [Linter.warnings, Linter.skippedKeys_eq_rawKeys hc]
    rfl

end Read

/-- An unknown key with an arbitrary value does not keep linting from succeeding. -/
theorem Linter.lint_succeeds_of_ofJson_retired :
    ∃ c, Config.ofJson (.object [("rules", .object [
        ("retiredRule", .array [.null]),
        ("heading-case", .object [("level", .string "error"), ("message", .string "Case.")])])]) =
        .ok c ∧
      (∃ ds, (Linter.standard c).lint
        (.mk .document none [.mk (.heading 1) (some 3) [.mk (.text "All Of It") none []]]) =
          .ok ds) ∧
      (Linter.standard c).warnings = ["Unknown rule: retiredRule (skipped)"] := by
  refine ⟨⟨[("retiredRule", .raw (.array [.null])), ("heading-case", .entry ⟨.error, "Case.", []⟩)],
    "text"⟩, rfl, ?_⟩
  obtain ⟨hlint, _, _, hwarnings⟩ := Linter.lint_succeeds_of_ofJson (v := .object [("rules",
    .object [("retiredRule", .array [.null]),
      ("heading-case", .object [("level", .string "error"), ("message", .string "Case.")])])]) rfl
    (.mk .document none [.mk (.heading 1) (some 3) [.mk (.text "All Of It") none []]])
  exact ⟨hlint, hwarnings⟩

end ProseCheck
