import ProseCheck.Proofs.Linting

/-!
# Entries under unknown keys

A key that names no rule takes no part in validation or linting, whatever stands under it and
wherever it stands among the others. Validation passes over it in every state of its scan, so it
changes neither what is accepted nor the fault for which the rest is refused; linting skips it with
a warning at its place.
-/

namespace ProseCheck

open Document
open Json (Value Members)

namespace Config

/-- Whether the key of a setting names a rule. -/
def isKnown (s : Str × Setting) : Bool :=
  (Rule.ofKey? s.1).isSome

/-! ### Validation -/

/-- A setting under an unknown key is passed over: leaving all of them out before reading is the
same as leaving them out afterwards, whatever rules have been seen. -/
theorem readSettings_filter_isKnown (seen : List (Rule × Str))
    (settings : List (Str × Setting)) :
    readSettings seen (settings.filter isKnown) =
      (readSettings seen settings).map (List.filter isKnown) := by
  induction settings generalizing seen with
  | nil => rfl
  | cons s settings ih =>
    obtain ⟨key, setting⟩ := s
    cases hkey : Rule.ofKey? key with
    | none =>
      have hunknown (setting : Setting) : ¬isKnown (key, setting) = true := by
        simp [isKnown, hkey]
      rw [List.filter_cons_of_neg (hunknown setting), ih, readSettings]
      simp only [hkey]
      cases readSettings seen settings with
      | error fault => rfl
      | ok out => simp [Except.map, List.filter_cons_of_neg (hunknown setting)]
    | some rule =>
      have hknown (setting : Setting) : isKnown (key, setting) = true := by
        simp [isKnown, hkey]
      rw [List.filter_cons_of_pos (hknown setting), readSettings, readSettings]
      simp only [hkey]
      cases seen.lookup rule with
      | some first => rfl
      | none =>
        cases Entry.ofRuleSetting rule setting with
        | error fault => rfl
        | ok e =>
          simp only [ih]
          cases readSettings ((rule, key) :: seen) settings with
          | error fault => rfl
          | ok out => simp [Except.map, List.filter_cons_of_pos (hknown (.entry e))]

/-- The keys of a configuration are those of the members that it is read from. -/
theorem HasRules.keys_eq {v : Value} {entries : Members} (h : HasRules v entries) {c : Config}
    (hc : ofJson v = .ok c) : c.rules.map Prod.fst = entries.map Prod.fst := by
  have hread := (h.ofJson_eq_ok_iff.mp hc).1
  rw [keys_eq_of_forall₂_settingRead (forall₂_settingRead_of_readSettings hread), rawSettings,
    List.map_map]
  rfl

/-- A member of the rules after an extension: one that was there before, or one that is new. -/
structure Slot where
  key : Str
  value : Value
  isNew : Bool

/-- The member in a slot. -/
def Slot.member (s : Slot) : Str × Value :=
  (s.key, s.value)

/-- The members that were there before an extension. -/
def originalMembers (slots : List Slot) : Members :=
  (slots.filter fun s => !s.isNew).map Slot.member

/-- All members after an extension. -/
def extendedMembers (slots : List Slot) : Members :=
  slots.map Slot.member

/-- A value is extended by entries under keys that name no rule, anywhere among its rules. -/
structure Extends (v v' : Value) (slots : List Slot) : Prop where
  /-- The rules of the one are what was there before. -/
  original : HasRules v (originalMembers slots)
  /-- The rules of the other have the new entries as well. -/
  extended : HasRules v' (extendedMembers slots)
  /-- New keys name no rule. -/
  unknown : ∀ s ∈ slots, s.isNew = true → Rule.ofKey? s.key = none
  /-- All else is the same. -/
  others : ∀ name : Str, name ≠ "rules" → member? v name = member? v' name

variable {v v' : Value} {slots : List Slot}

/-- Before and after an extension there are the same settings under known keys. -/
theorem Extends.filter_isKnown_eq (h : Extends v v' slots) :
    (rawSettings (extendedMembers slots)).filter isKnown =
      (rawSettings (originalMembers slots)).filter isKnown := by
  simp only [rawSettings, extendedMembers, originalMembers, List.map_map, List.filter_map,
    List.filter_filter]
  refine congrArg _ (List.filter_congr fun s hs => ?_)
  cases hnew : s.isNew with
  | false => simp
  | true => simp [isKnown, Slot.member, h.unknown s hs hnew]

/-- Reading the rules before and after an extension fails for the same reason, or gives the same
settings under known keys. -/
theorem Extends.readSettings_eq (h : Extends v v' slots) :
    (readSettings [] (rawSettings (extendedMembers slots))).map (List.filter isKnown) =
      (readSettings [] (rawSettings (originalMembers slots))).map (List.filter isKnown) := by
  rw [← readSettings_filter_isKnown, ← readSettings_filter_isKnown, h.filter_isKnown_eq]

/-- The format is not extended. -/
theorem Extends.readFormat_eq (h : Extends v v' slots) : readFormat v' = readFormat v := by
  rw [readFormat, readFormat, h.others "format" (by decide)]

/-- A value and its extension are refused for the same fault, or are both accepted with the same
settings under known keys. -/
theorem Extends.ofJson_cases (h : Extends v v' slots) :
    (∃ fault, ofJson v = .error fault ∧ ofJson v' = .error fault) ∨
      ∃ c c', ofJson v = .ok c ∧ ofJson v' = .ok c' ∧
        c'.rules.filter isKnown = c.rules.filter isKnown := by
  have hread := h.readSettings_eq
  rw [h.original.ofJson_eq_bind, h.extended.ofJson_eq_bind, h.readFormat_eq]
  cases horiginal : readSettings [] (rawSettings (originalMembers slots)) with
  | error fault =>
    left
    cases hextended : readSettings [] (rawSettings (extendedMembers slots)) with
    | ok out' => simp [horiginal, hextended, Except.map] at hread
    | error fault' =>
      obtain rfl : fault' = fault := by simpa [horiginal, hextended, Except.map] using hread
      exact ⟨fault', rfl, rfl⟩
  | ok out =>
    cases hextended : readSettings [] (rawSettings (extendedMembers slots)) with
    | error fault' => simp [horiginal, hextended, Except.map] at hread
    | ok out' =>
      have hknown : out'.filter isKnown = out.filter isKnown := by
        simpa [horiginal, hextended, Except.map] using hread
      cases readFormat v with
      | error fault => exact .inl ⟨fault, rfl, rfl⟩
      | ok format => exact .inr ⟨⟨out, format⟩, ⟨out', format⟩, rfl, rfl, hknown⟩

/-! ### Linting -/

/-- The assignments of a configuration come from the settings under known keys. -/
theorem assignments_eq_filterMap_filter (c : Config) :
    c.assignments = (c.rules.filter isKnown).filterMap Assignment.ofSetting? := by
  rw [assignments, List.filterMap_filter]
  refine List.filterMap_congr fun s _ => ?_
  obtain ⟨key, setting⟩ := s
  split
  · rfl
  · rename_i hunknown
    have hkey : Rule.ofKey? key = none := by simpa [isKnown] using hunknown
    cases setting <;> simp [Assignment.ofSetting?, hkey]

end Config

/-- Configurations that are well formed and have the same settings under known keys give the same
diagnostics. -/
theorem Config.Wellformed.exists_lint_eq {c c' : Config} (hc : c.Wellformed) (hc' : c'.Wellformed)
    (hknown : c'.rules.filter Config.isKnown = c.rules.filter Config.isKnown) (tree : Node) :
    ∃ ds, (Linter.standard c).lint tree = .ok ds ∧ (Linter.standard c').lint tree = .ok ds := by
  have hassignments : c'.assignments = c.assignments := by
    rw [Config.assignments_eq_filterMap_filter, Config.assignments_eq_filterMap_filter, hknown]
  refine ⟨_, hc.lint_eq tree, ?_⟩
  rw [hc'.lint_eq tree, hassignments]

/-- Linting warns of the keys that name no rule, in the order in which they were given. -/
theorem Linter.warnings_eq_of_hasRules {v : Value} {entries : Members}
    (h : Config.HasRules v entries) {c : Config} (hc : Config.ofJson v = .ok c) :
    (Linter.standard c).warnings =
      ((entries.map Prod.fst).filter fun key => (Rule.ofKey? key).isNone).map
        Linter.skippedMessage := by
  have hskipped (key : Str) :
      (Registry.standard.get? key).isNone = (Rule.ofKey? key).isNone := by
    rw [Registry.standard_get?, Option.isNone_map]
  simp only [Linter.warnings, Linter.skippedKeys, Linter.standard, h.keys_eq hc, hskipped]

/-- A value and its extension by entries under unknown keys are accepted together and refused for
the same fault. If they are accepted, the diagnostics of every document are the same, and the
warnings are those of the unknown keys at their places: before the extension of the original ones,
after it of the new ones as well. -/
theorem Linter.lint_of_extends {v v' : Value} {slots : List Config.Slot}
    (h : Config.Extends v v' slots) :
    ((∃ c, Config.ofJson v = .ok c) ↔ ∃ c', Config.ofJson v' = .ok c') ∧
    (∀ fault, Config.ofJson v = .error fault ↔ Config.ofJson v' = .error fault) ∧
    ∀ c c', Config.ofJson v = .ok c → Config.ofJson v' = .ok c' →
      (∀ tree, ∃ ds, (Linter.standard c).lint tree = .ok ds ∧
        (Linter.standard c').lint tree = .ok ds) ∧
      (Linter.standard c).warnings =
        (slots.filter fun s => !s.isNew && (Rule.ofKey? s.key).isNone).map
          (fun s => Str.ofString "Unknown rule: " ++ s.key ++ " (skipped)") ∧
      (Linter.standard c').warnings =
        (slots.filter fun s => s.isNew || (Rule.ofKey? s.key).isNone).map
          (fun s => Str.ofString "Unknown rule: " ++ s.key ++ " (skipped)") := by
  refine ⟨?_, ?_, fun c c' hc hc' => ⟨fun tree => ?_, ?_, ?_⟩⟩
  · rcases h.ofJson_cases with ⟨fault, hv, hv'⟩ | ⟨c, c', hv, hv', _⟩
    · simp [hv, hv']
    · simp [hv, hv']
  · rcases h.ofJson_cases with ⟨fault, hv, hv'⟩ | ⟨c, c', hv, hv', _⟩
    · simp [hv, hv']
    · simp [hv, hv']
  · have hwf := (Config.Accepted.read hc).wellformed
    have hwf' := (Config.Accepted.read hc').wellformed
    rcases h.ofJson_cases with ⟨fault, hv, _⟩ | ⟨c₀, c₀', hv, hv', hknown⟩
    · simp [hc] at hv
    · rw [hc] at hv
      rw [hc'] at hv'
      rw [← Except.ok.inj hv, ← Except.ok.inj hv'] at hknown
      exact hwf.exists_lint_eq hwf' hknown tree
  · rw [Linter.warnings_eq_of_hasRules h.original hc]
    simp only [Config.originalMembers, List.map_map, List.filter_map, List.filter_filter]
    refine congrArg₂ _ rfl (List.filter_congr fun s _ => ?_)
    simp [Config.Slot.member, Bool.and_comm]
  · rw [Linter.warnings_eq_of_hasRules h.extended hc']
    simp only [Config.extendedMembers, List.map_map, List.filter_map]
    refine congrArg₂ _ rfl (List.filter_congr fun s hs => ?_)
    -- A new key is unknown, so the warning for it is not told apart by its key.
    cases hnew : s.isNew with
    | false => simp [Config.Slot.member]
    | true => simp [Config.Slot.member, h.unknown s hs hnew]

/-- Two rules and an unknown entry, with new entries before, between and behind them. -/
def paddedSlots : List Config.Slot := [
  ⟨"heading", .bool true, true⟩,
  ⟨"headingCase", .object [("level", .string "error"), ("message", .string "Case.")], false⟩,
  ⟨"heading_case", .array [.null], true⟩,
  ⟨"retired", .string "", false⟩,
  ⟨"max-sentences-in-paragraph",
    .object [("level", .string "info"), ("message", .string ""),
      ("args", .object [("limit", .int 0)])], false⟩,
  ⟨"maxsentences", .object [("level", .int 3)], true⟩]

/-- Padding a configuration with unknown entries adds warnings at their places and nothing else. -/
theorem Linter.lint_of_extends_padded :
    ∃ v v', Config.Extends v v' paddedSlots ∧ ∃ c c', Config.ofJson v = .ok c ∧
      Config.ofJson v' = .ok c' ∧
      (∀ tree, ∃ ds, (Linter.standard c).lint tree = .ok ds ∧
        (Linter.standard c').lint tree = .ok ds) ∧
      (Linter.standard c).warnings = ["Unknown rule: retired (skipped)"] ∧
      (Linter.standard c').warnings =
        ["Unknown rule: heading (skipped)", "Unknown rule: heading_case (skipped)",
          "Unknown rule: retired (skipped)", "Unknown rule: maxsentences (skipped)"] := by
  have hextends : Config.Extends (.object [("rules", .object (Config.originalMembers paddedSlots))])
      (.object [("rules", .object (Config.extendedMembers paddedSlots))]) paddedSlots := by
    refine ⟨⟨_, rfl, .inl rfl⟩, ⟨_, rfl, .inl rfl⟩, by decide, fun name hname => ?_⟩
    have hrules : (name == Str.ofString "rules") = false := by simpa using hname
    simp [Config.member?, List.lookup_cons, hrules]
  obtain ⟨hiff, _, hlint⟩ := Linter.lint_of_extends hextends
  have hc : ∃ c, Config.ofJson
      (.object [("rules", .object (Config.originalMembers paddedSlots))]) = .ok c := ⟨_, rfl⟩
  obtain ⟨c, hc⟩ := hc
  obtain ⟨c', hc'⟩ := hiff.mp ⟨c, hc⟩
  obtain ⟨hsame, hwarnings, hwarnings'⟩ := hlint c c' hc hc'
  exact ⟨_, _, hextends, c, c', hc, hc', hsame, hwarnings, hwarnings'⟩

end ProseCheck
