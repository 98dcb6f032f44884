import ProseCheck.Proofs.CanonicalForm
import Mathlib.Data.List.Forall2

/-!
# The order of the rules in a configuration

Validation scans the rules from first to last and linting runs them in the same order, so an order
of the rules is part of a configuration. It shows within a line only: a configuration with its rules
in another order is accepted as well, and its diagnostics are the same on the same lines, those of
each rule in the same order.
-/

namespace ProseCheck

open Document
open Json (Value)

namespace Config

/-! ### Validation -/

/-- Two values differ only in the order of their rules. -/
structure Reordered (v v' : Value) : Prop where
  /-- The rules of the one are those of the other in some order. -/
  rules : ∃ entries entries', HasRules v entries ∧ HasRules v' entries' ∧ entries.Perm entries'
  /-- All else is the same. -/
  others : ∀ name : Str, name ≠ "rules" → member? v name = member? v' name

/-- Reordering goes both ways. -/
theorem Reordered.symm {v v' : Value} (h : Reordered v v') : Reordered v' v := by
  obtain ⟨entries, entries', hrules, hrules', hperm⟩ := h.rules
  exact ⟨⟨entries', entries, hrules', hrules, hperm.symm⟩,
    fun name hname => (h.others name hname).symm⟩

/-- That no two keys name the same rule does not depend on the order of the keys. -/
theorem RulesDistinct.perm {keys keys' : List Str} (hdistinct : RulesDistinct keys)
    (hperm : keys.Perm keys') : RulesDistinct keys' := by
  refine (hperm.pairwise_iff ?_).mp hdistinct
  intro a b hab rule hb ha
  exact hab rule ha hb

/-- Reading makes one thing of a setting. -/
theorem SettingRead.unique {given read read' : Str × Setting} (h : SettingRead given read)
    (h' : SettingRead given read') : read = read' := by
  cases h with
  | kept hkey =>
    cases h' with
    | kept _ => rfl
    | entry hkey' _ => simp [hkey] at hkey'
  | entry hkey he =>
    cases h' with
    | kept hkey' => simp [hkey] at hkey'
    | entry hkey' he' =>
      rw [hkey] at hkey'
      obtain rfl := Option.some.inj hkey'
      rw [he] at he'
      rw [Except.ok.inj he']

/-- Settings in another order are read as well, and what is read is the same in another order. The
scan stops early, but what it stops for is there in every order. -/
theorem exists_readSettings_perm {settings settings' out : List (Str × Setting)}
    (hperm : settings.Perm settings') (hok : readSettings [] settings = .ok out) :
    ∃ out', readSettings [] settings' = .ok out' ∧ out.Perm out' := by
  obtain ⟨hdistinct, hvalid⟩ :=
    forall_not_faultAt_iff.mp (exists_readSettings_eq_ok_iff.mp ⟨out, hok⟩)
  have hvalid' : ∀ key setting rule, (key, setting) ∈ settings' → Rule.ofKey? key = some rule →
      ∃ e, Entry.ofRuleSetting rule setting = .ok e :=
    fun key setting rule hmem => hvalid key setting rule (hperm.mem_iff.mpr hmem)
  obtain ⟨out', hok'⟩ := exists_readSettings_eq_ok_iff.mpr
    (forall_not_faultAt_iff.mpr ⟨hdistinct.perm (hperm.map Prod.fst), hvalid'⟩)
  obtain ⟨out'', hreads, hout⟩ :=
    List.perm_comp_forall₂ hperm.symm (forall₂_settingRead_of_readSettings hok)
  have heq : out'' = out' :=
    List.right_unique_forall₂' (fun {_ _ _} h h' => h.unique h') hreads
      (forall₂_settingRead_of_readSettings hok')
  subst heq
  exact ⟨out'', hok', hout.symm⟩

/-- A value with its rules in another order is accepted as well, and the settings are the same in
another order. -/
theorem Reordered.exists_ofJson {v v' : Value} (h : Reordered v v') {c : Config}
    (hc : ofJson v = .ok c) : ∃ c', ofJson v' = .ok c' ∧ c.rules.Perm c'.rules := by
  obtain ⟨entries, entries', hrules, hrules', hperm⟩ := h.rules
  obtain ⟨hread, hformat⟩ := hrules.ofJson_eq_ok_iff.mp hc
  obtain ⟨out', hread', hout⟩ := exists_readSettings_perm (hperm.map _) hread
  have hformat' : readFormat v' = .ok c.format := by
    rw [readFormat, ← h.others "format" (by decide)]
    exact hformat
  exact ⟨⟨out', c.format⟩, hrules'.ofJson_eq_ok_iff.mpr ⟨hread', hformat'⟩, hout⟩

/-- Settings in another order give the same assignments in another order. -/
theorem assignments_perm {c c' : Config} (hperm : c.rules.Perm c'.rules) :
    c.assignments.Perm c'.assignments :=
  hperm.filterMap _

/-- No two assignments of a configuration are of the same rule. -/
theorem Wellformed.assignments_rules_pairwise {c : Config} (hc : c.Wellformed) :
    c.assignments.Pairwise fun a b => a.rule ≠ b.rule := by
  refine hc.assignments_pairwise.imp fun {a b} hlt heq => ?_
  rw [heq] at hlt
  exact Nat.lt_irrefl _ hlt

/-- There is at most one assignment of a rule, so the order of the configuration does not show in
it. -/
theorem Wellformed.filter_assignments_eq {c c' : Config} (hc : c.Wellformed)
    (hc' : c'.Wellformed) (hperm : c.rules.Perm c'.rules) (rule : Str) :
    (c.assignments.filter fun a => a.rule.id == rule) =
      c'.assignments.filter fun a => a.rule.id == rule := by
  refine List.Perm.eq_of_pairwise ?_ (hc.assignments_rules_pairwise.filter _)
    (hc'.assignments_rules_pairwise.filter _) ((assignments_perm hperm).filter _)
  intro a b ha hb hne _
  have ha' := (List.mem_filter.mp ha).2
  have hb' := (List.mem_filter.mp hb).2
  rw [beq_iff_eq] at ha' hb'
  exact absurd (Rule.id_injective (Str.ofString_injective (ha'.trans hb'.symm))) hne

end Config

/-! ### Linting -/

/-- The diagnostics of a rule are those of the assignments of that rule. -/
theorem filter_flatMap_diagnostics (l : List Assignment) (tree : Node) (rule : Str) :
    ((l.flatMap (Assignment.diagnostics tree)).filter fun d => d.rule == rule) =
      (l.filter fun a => a.rule.id == rule).flatMap (Assignment.diagnostics tree) := by
  have hrule {a : Assignment} {d : Diagnostic} (hd : d ∈ a.diagnostics tree) :
      d.rule = a.rule.id := by
    rw [Assignment.eq_diagnosticOn_of_mem hd]
    rfl
  induction l with
  | nil => rfl
  | cons a l ih =>
    rw [List.flatMap_cons, List.filter_append, ih]
    by_cases ha : a.rule.id = rule
    · have hall : ((a.diagnostics tree).filter fun d => d.rule == rule) = a.diagnostics tree := by
        rw [List.filter_eq_self]
        intro d hd
        rw [hrule hd, beq_iff_eq]
        exact ha
      rw [hall, List.filter_cons_of_pos (by simpa using ha), List.flatMap_cons]
    · have hnone : ((a.diagnostics tree).filter fun d => d.rule == rule) = [] := by
        rw [List.filter_eq_nil_iff]
        intro d hd
        rw [hrule hd, beq_iff_eq]
        exact ha
      rw [hnone, List.filter_cons_of_neg (by simpa using ha), List.nil_append]

namespace Linter

/-- Sorting some of the diagnostics is taking some of those that are sorted. -/
theorem sortByLine_filter (p : Diagnostic → Bool) (ds : List Diagnostic) :
    sortByLine (ds.filter p) = (sortByLine ds).filter p := by
  induction ds with
  | nil => simp [sortByLine]
  | cons d ds ih =>
    obtain ⟨hcons, htail⟩ := sortByLine_cons d ds
    cases hp : p d with
    | true =>
      have hswap (q : Diagnostic → Bool) (l : List Diagnostic) :
          (l.filter p).filter q = (l.filter q).filter p := by
        rw [List.filter_filter, List.filter_filter]
        simp only [Bool.and_comm]
      rw [List.filter_cons_of_pos hp, (sortByLine_cons d _).1, ih, hcons, List.filter_append,
        List.filter_cons_of_pos hp, hswap, hswap]
    | false =>
      have hneg : ¬p d = true := by simp [hp]
      rw [List.filter_cons_of_neg hneg, ih, hcons, List.filter_append,
        List.filter_cons_of_neg hneg, ← List.filter_append, ← htail]

/-- The lines of sorted diagnostics do not depend on the order in which they are given. -/
theorem map_line_sortByLine {ds ds' : List Diagnostic} (hperm : ds.Perm ds') :
    (sortByLine ds).map Diagnostic.line = (sortByLine ds').map Diagnostic.line := by
  have hsorted (l : List Diagnostic) :
      ((sortByLine l).map Diagnostic.line).Pairwise (· ≤ ·) := by
    rw [List.pairwise_map]
    exact sortByLine_pairwise l
  have hlines := (((sortByLine_perm ds).trans hperm).trans (sortByLine_perm ds').symm).map
    Diagnostic.line
  refine List.Perm.eq_of_pairwise ?_ (hsorted ds) (hsorted ds') hlines
  intro a b _ _ hab hba
  omega

end Linter

/-- Values that differ in the order of their rules are accepted together. Their diagnostics are the
same up to the order within a line: the lines are the same, one list is a permutation of the other,
both or none have errors, and the diagnostics of every rule are the same list. -/
theorem Linter.lint_of_reordered {v v' : Value} (h : Config.Reordered v v') :
    ((∃ c, Config.ofJson v = .ok c) ↔ ∃ c', Config.ofJson v' = .ok c') ∧
    ∀ c c', Config.ofJson v = .ok c → Config.ofJson v' = .ok c' → ∀ tree,
      ∃ ds ds', (Linter.standard c).lint tree = .ok ds ∧ (Linter.standard c').lint tree = .ok ds' ∧
        ds.map Diagnostic.line = ds'.map Diagnostic.line ∧ ds.Perm ds' ∧
        hasErrors ds = hasErrors ds' ∧
        ∀ rule, (ds.filter fun d => d.rule == rule) = ds'.filter fun d => d.rule == rule := by
  refine ⟨⟨?_, ?_⟩, ?_⟩
  · rintro ⟨c, hc⟩
    obtain ⟨c', hc', _⟩ := h.exists_ofJson hc
    exact ⟨c', hc'⟩
  · rintro ⟨c', hc'⟩
    obtain ⟨c, hc, _⟩ := h.symm.exists_ofJson hc'
    exact ⟨c, hc⟩
  · intro c c' hc hc' tree
    have hwf := (Config.Accepted.read hc).wellformed
    have hwf' := (Config.Accepted.read hc').wellformed
    have hrules : c.rules.Perm c'.rules := by
      obtain ⟨c'', hc'', hperm⟩ := h.exists_ofJson hc
      rw [hc'] at hc''
      rwa [Except.ok.inj hc'']
    have hgiven : (c.assignments.flatMap (Assignment.diagnostics tree)).Perm
        (c'.assignments.flatMap (Assignment.diagnostics tree)) :=
      (Config.assignments_perm hrules).flatMap_right _
    have hsorted : (sortByLine (c.assignments.flatMap (Assignment.diagnostics tree))).Perm
        (sortByLine (c'.assignments.flatMap (Assignment.diagnostics tree))) :=
      ((sortByLine_perm _).trans hgiven).trans (sortByLine_perm _).symm
    refine ⟨_, _, hwf.lint_eq tree, hwf'.lint_eq tree, map_line_sortByLine hgiven, hsorted,
      hsorted.any_eq, fun rule => ?_⟩
    rw [← sortByLine_filter, ← sortByLine_filter, filter_flatMap_diagnostics,
      filter_flatMap_diagnostics, hwf.filter_assignments_eq hwf' hrules]

/-- A configuration whose two rules have diagnostics on the same line of a document. -/
def wordsThenPhrases : Value :=
  .object [("format", .string "json"), ("rules", .object [
    ("minimumWordsInSentence", .object [("level", .string "warning"), ("message", .string "Few.")]),
    ("retired", .null),
    ("banned-phrases", .object [("level", .string "error"), ("message", .string "Banned."),
      ("args", .object [("phrases", .array [.string "has been"])])])])]

/-- The same configuration with its rules in the opposite order. -/
def phrasesThenWords : Value :=
  .object [("format", .string "json"), ("rules", .object [
    ("banned-phrases", .object [("level", .string "error"), ("message", .string "Banned."),
      ("args", .object [("phrases", .array [.string "has been"])])]),
    ("retired", .null),
    ("minimumWordsInSentence",
      .object [("level", .string "warning"), ("message", .string "Few.")])])]

/-- Two rules that are exchanged are accepted in both orders and report the same. -/
theorem Linter.lint_of_reordered_exchanged :
    Config.Reordered wordsThenPhrases phrasesThenWords ∧
      ∃ c c', Config.ofJson wordsThenPhrases = .ok c ∧ Config.ofJson phrasesThenWords = .ok c' ∧
        ∃ ds ds', (Linter.standard c).lint headingInParagraph = .ok ds ∧
          (Linter.standard c').lint headingInParagraph = .ok ds' ∧ ds.Perm ds' ∧
          ds.map Diagnostic.line = ds'.map Diagnostic.line := by
  have hreordered : Config.Reordered wordsThenPhrases phrasesThenWords := by
    refine ⟨⟨_, _, ⟨_, rfl, .inl rfl⟩, ⟨_, rfl, .inl rfl⟩, (List.reverse_perm _).symm⟩,
      fun name hname => ?_⟩
    have hrules : (name == Str.ofString "rules") = false := by simpa using hname
    simp [Config.member?, wordsThenPhrases, phrasesThenWords, List.lookup_cons, hrules]
  obtain ⟨hiff, hlint⟩ := Linter.lint_of_reordered hreordered
  have hc : ∃ c, Config.ofJson wordsThenPhrases = .ok c := ⟨_, rfl⟩
  obtain ⟨c, hc⟩ := hc
  obtain ⟨c', hc'⟩ := hiff.mp ⟨c, hc⟩
  obtain ⟨ds, ds', hds, hds', hlines, hperm, _⟩ := hlint c c' hc hc' headingInParagraph
  exact ⟨hreordered, c, c', hc, hc', ds, ds', hds, hds', hperm, hlines⟩

end ProseCheck
