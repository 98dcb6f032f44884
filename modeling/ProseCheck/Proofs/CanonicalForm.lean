import ProseCheck.Proofs.CodePoints
import ProseCheck.Proofs.Linting
import ProseCheck.Proofs.Violation
import Mathlib.Algebra.BigOperators.Group.List.Basic
import Mathlib.Algebra.GroupWithZero.Nat

/-!
# The canonical form of a lint result

The diagnostics of a document are determined by how often its headings and paragraphs violate the
rules of the configuration: each line has the diagnostics of a rule as often as its nodes violate
the rule, and the lines come in increasing order, with the rules of a line in the order of the
configuration.
-/

namespace ProseCheck

open Document

/-- Rules are told apart by their identifiers. -/
theorem Rule.id_injective : Function.Injective Rule.id := by
  intro r r' h
  cases r <;> cases r' <;> first | rfl | exact absurd h (by decide)

/-! ### Sorting by line -/

namespace Linter

/-- Sorting by line keeps the diagnostics. -/
theorem sortByLine_perm (ds : List Diagnostic) : (sortByLine ds).Perm ds :=
  List.mergeSort_perm ds _

private theorem line_le_trans (a b c : Diagnostic) (hab : decide (a.line ≤ b.line) = true)
    (hbc : decide (b.line ≤ c.line) = true) : decide (a.line ≤ c.line) = true := by
  rw [decide_eq_true_iff] at *
  omega

private theorem line_le_total (a b : Diagnostic) :
    (decide (a.line ≤ b.line) || decide (b.line ≤ a.line)) = true := by
  rw [Bool.or_eq_true, decide_eq_true_iff, decide_eq_true_iff]
  omega

/-- Lines come in increasing order after sorting. -/
theorem sortByLine_pairwise (ds : List Diagnostic) :
    (sortByLine ds).Pairwise fun a b => a.line ≤ b.line := by
  have hsorted : (sortByLine ds).Pairwise fun a b => decide (a.line ≤ b.line) = true :=
    List.pairwise_mergeSort line_le_trans line_le_total ds
  exact hsorted.imp fun h => of_decide_eq_true h

/-- Sorting one diagnostic more puts it behind those of earlier lines and in front of the others. -/
theorem sortByLine_cons (d : Diagnostic) (ds : List Diagnostic) :
    sortByLine (d :: ds) = (sortByLine ds).filter (fun x => decide (x.line < d.line)) ++
        d :: (sortByLine ds).filter (fun x => decide (d.line ≤ x.line)) ∧
      sortByLine ds = (sortByLine ds).filter (fun x => decide (x.line < d.line)) ++
        (sortByLine ds).filter (fun x => decide (d.line ≤ x.line)) := by
  obtain ⟨front, back, hcons, htail, hnot⟩ :=
    List.mergeSort_cons line_le_trans line_le_total d ds
  have hfront : ∀ x ∈ front, x.line < d.line := by
    intro x hx
    have hx' := hnot x hx
    simp only [Bool.not_eq_true', decide_eq_false_iff_not] at hx'
    omega
  have hback : ∀ x ∈ back, d.line ≤ x.line := by
    have hsorted := sortByLine_pairwise (d :: ds)
    rw [sortByLine, hcons, List.pairwise_append, List.pairwise_cons] at hsorted
    exact hsorted.2.1.1
  have hearlier : (front ++ back).filter (fun x => decide (x.line < d.line)) = front := by
    rw [List.filter_append, List.filter_eq_self.mpr (by simpa using hfront),
      List.filter_eq_nil_iff.mpr (by simpa using hback), List.append_nil]
  have hlater : (front ++ back).filter (fun x => decide (d.line ≤ x.line)) = back := by
    rw [List.filter_append, List.filter_eq_nil_iff.mpr (by simpa using hfront),
      List.filter_eq_self.mpr (by simpa using hback), List.nil_append]
  rw [sortByLine, sortByLine, htail, hearlier, hlater]
  exact ⟨hcons, rfl⟩

/-- Sorting fewer diagnostics leaves out those that are missing and no others. -/
theorem sortByLine_sublist {ds ds' : List Diagnostic} (hsub : ds.Sublist ds') :
    (sortByLine ds).Sublist (sortByLine ds') := by
  induction hsub with
  | slnil => exact .refl _
  | @cons ds ds' d _ ih =>
    -- The new diagnostic stands between two parts that were there before.
    obtain ⟨hcons, htail⟩ := sortByLine_cons d ds'
    rw [htail] at ih
    rw [hcons]
    exact ih.middle d
  | @cons_cons ds ds' d _ ih =>
    rw [(sortByLine_cons d ds).1, (sortByLine_cons d ds').1]
    exact (ih.filter _).append ((ih.filter _).cons_cons d)

/-- Sorting by line does not change the diagnostics of a line and their order. -/
theorem filter_sortByLine (line : ℤ) (ds : List Diagnostic) :
    (sortByLine ds).filter (fun d => d.line == line) = ds.filter fun d => d.line == line := by
  have hconstant : (ds.filter fun d => d.line == line).Pairwise
      fun a b => decide (a.line ≤ b.line) = true := by
    rw [List.pairwise_iff_forall_sublist]
    intro a b hab
    have ha := (List.mem_filter.mp (hab.subset (by simp : a ∈ [a, b]))).2
    have hb := (List.mem_filter.mp (hab.subset (by simp : b ∈ [a, b]))).2
    simp only [beq_iff_eq] at ha hb
    simp [ha, hb]
  have hsub : (ds.filter fun d => d.line == line).Sublist (sortByLine ds) :=
    List.sublist_mergeSort line_le_trans line_le_total hconstant List.filter_sublist
  have hfilter := hsub.filter fun d => d.line == line
  rw [List.filter_filter] at hfilter
  simp only [Bool.and_self] at hfilter
  exact (hfilter.eq_of_length (((sortByLine_perm ds).filter _).length_eq).symm).symm

end Linter

/-! ### The order of the rules -/

namespace Config

/-- The place of a rule in a configuration: that of the first key which names it. -/
def place (c : Config) (rule : Str) : ℕ :=
  c.rules.findIdx fun s => (Rule.ofKey? s.1).any fun r => r.id == rule

/-- The order of a report: by line, then by the place of the rule in the configuration. -/
def Precedes (c : Config) (a b : Diagnostic) : Prop :=
  a.line < b.line ∨ a.line = b.line ∧ c.place a.rule ≤ c.place b.rule

/-- A configuration asks for a rule: a key names the rule, and the entry under that key makes the
check. -/
def Assigns (c : Config) (a : Assignment) : Prop :=
  ∃ key, (key, Setting.entry a.entry) ∈ c.rules ∧ Rule.ofKey? key = some a.rule ∧
    a.rule.check a.entry.args = .ok a.check

/-- The assignments of a configuration are what it asks for. -/
theorem mem_assignments_iff {c : Config} {a : Assignment} : a ∈ c.assignments ↔ c.Assigns a := by
  rw [assignments, List.mem_filterMap]
  constructor
  · rintro ⟨⟨key, setting⟩, hmem, hsetting⟩
    obtain ⟨hkey, rfl, hcheck⟩ := Assignment.ofSetting?_eq_some_iff.mp hsetting
    exact ⟨key, hmem, hkey, hcheck⟩
  · rintro ⟨key, hmem, hkey, hcheck⟩
    exact ⟨(key, .entry a.entry), hmem, Assignment.ofSetting?_eq_some_iff.mpr ⟨hkey, rfl, hcheck⟩⟩

section Wellformed

variable {c : Config} (hc : c.Wellformed)

include hc

/-- The place of a rule is the place of the one key that names it. -/
theorem Wellformed.place_eq {i : ℕ} {key : Str} {setting : Setting} {rule : Rule}
    (hat : c.rules[i]? = some (key, setting)) (hkey : Rule.ofKey? key = some rule) :
    c.place rule.id = i := by
  obtain ⟨hi, hi'⟩ := List.getElem?_eq_some_iff.mp hat
  rw [place, List.findIdx_eq hi]
  constructor
  · simp [hi', hkey]
  · intro j hj
    by_contra hnamed
    simp only [Bool.not_eq_false, Option.any_eq_true, beq_iff_eq] at hnamed
    obtain ⟨rule', hrule', hid⟩ := hnamed
    obtain rfl := Rule.id_injective (Str.ofString_injective hid)
    have hfirst : NamesAt c.rules j c.rules[j].1 rule' :=
      ⟨c.rules[j].2, List.getElem?_eq_getElem _, hrule'⟩
    exact hc.distinct.not_namesAt hj hfirst ⟨setting, hat, hkey⟩

/-- What a configuration asks for is determined by the place of the rule. -/
theorem Wellformed.assignment_unique {a b : Assignment} (ha : c.Assigns a) (hb : c.Assigns b)
    (hplace : c.place a.rule.id = c.place b.rule.id) : a = b := by
  obtain ⟨key, hmem, hkey, hcheck⟩ := ha
  obtain ⟨key', hmem', hkey', hcheck'⟩ := hb
  obtain ⟨i, hat⟩ := List.mem_iff_getElem?.mp hmem
  obtain ⟨i', hat'⟩ := List.mem_iff_getElem?.mp hmem'
  rw [hc.place_eq hat hkey, hc.place_eq hat' hkey'] at hplace
  subst hplace
  rw [hat] at hat'
  obtain ⟨rfl, hentry⟩ : key = key' ∧ a.entry = b.entry := by simpa using hat'
  rw [hkey] at hkey'
  have hrule := Option.some.inj hkey'
  rw [hrule, hentry, hcheck'] at hcheck
  exact Assignment.ext hrule hentry (Except.ok.inj hcheck).symm

/-- The assignments come in the order of the places of their rules. -/
theorem Wellformed.assignments_pairwise :
    c.assignments.Pairwise fun a b => c.place a.rule.id < c.place b.rule.id := by
  rw [assignments, List.pairwise_filterMap, List.pairwise_iff_getElem]
  intro i j hi hj hlt a ha b hb
  have hplace {k : ℕ} (hk : k < c.rules.length) {x : Assignment}
      (hx : Assignment.ofSetting? c.rules[k] = some x) : c.place x.rule.id = k := by
    obtain ⟨hkey, _, _⟩ := Assignment.ofSetting?_eq_some_iff.mp hx
    exact hc.place_eq (List.getElem?_eq_getElem hk) hkey
  rw [hplace hi ha, hplace hj hb]
  exact hlt

end Wellformed

end Config

/-! ### Counting violations -/

/-- The number of violations on a line: the sum over the headings and paragraphs that start
there. -/
def Check.violationsOn (check : Check) (tree : Node) (line : ℤ) : ℕ :=
  ((tree.preorder.filter fun n =>
    (n.isA .heading || n.isA .paragraph) && n.lineNumber == line).map check.violations).sum

/-- Elements that contribute nothing may be left out of a sum. -/
private theorem sum_ite_eq_sum_filter {α : Type} {p q : α → Bool} {f : α → ℕ}
    (hzero : ∀ a, p a = false → f a = 0) (l : List α) :
    (l.map fun a => if q a then f a else 0).sum = ((l.filter fun a => p a && q a).map f).sum := by
  induction l with
  | nil => rfl
  | cons a l ih =>
    cases hp : p a with
    | true => cases hq : q a <;> simp [hp, hq, ih]
    | false => simp [hp, hzero a hp, ih]

namespace Assignment

/-- A diagnostic for a rule that a configuration asks for, on a line. -/
def diagnosticOn (a : Assignment) (line : ℤ) : Diagnostic :=
  ⟨line, a.rule.id, a.entry.level, a.entry.message⟩

/-- Every diagnostic of an assignment is one on some line. -/
theorem eq_diagnosticOn_of_mem {a : Assignment} {tree : Node} {d : Diagnostic}
    (hmem : d ∈ a.diagnostics tree) : d = a.diagnosticOn d.line := by
  obtain ⟨n, _, rfl⟩ := List.mem_map.mp hmem
  rfl

/-- An assignment has a diagnostic on a line as often as the nodes on that line violate its
check. -/
theorem count_diagnostics (a : Assignment) (tree : Node) (line : ℤ) :
    (a.diagnostics tree).count (a.diagnosticOn line) = a.check.violationsOn tree line := by
  have hsame (n : Node) :
      (Linter.diagnostic a.rule a.entry n == a.diagnosticOn line) = (n.lineNumber == line) := by
    rw [Bool.eq_iff_iff, beq_iff_eq, beq_iff_eq]
    simp [Linter.diagnostic, diagnosticOn]
  rw [diagnostics, List.count, List.countP_map, Check.flagged_eq_flatMap_violations,
    List.countP_flatMap, Check.violationsOn]
  simp only [Function.comp_def, hsame, List.countP_replicate]
  refine sum_ite_eq_sum_filter (fun n hn => ?_) tree.preorder
  rw [Bool.or_eq_false_iff] at hn
  exact Check.violations_eq_zero hn.1 hn.2 a.check

end Assignment

/-! ### The canonical form -/

/-- What a list of diagnostics has to be to report a document under a configuration. -/
structure Canonical (c : Config) (tree : Node) (ds : List Diagnostic) : Prop where
  /-- Diagnostics come in the order of their lines, and of their rules within a line. -/
  ordered : ds.Pairwise c.Precedes
  /-- A rule has a diagnostic on a line for each violation there. -/
  counted : ∀ a, c.Assigns a → ∀ line,
    ds.count (a.diagnosticOn line) = a.check.violationsOn tree line
  /-- There are no other diagnostics. -/
  nothingElse : ∀ d ∈ ds, ∃ a, c.Assigns a ∧ d = a.diagnosticOn d.line

namespace Config

variable {c : Config}

/-- The diagnostics before sorting come in the order of the configuration. -/
theorem Wellformed.flatMap_diagnostics_pairwise (hc : c.Wellformed) (tree : Node) :
    (c.assignments.flatMap (Assignment.diagnostics tree)).Pairwise
      fun x y => c.place x.rule ≤ c.place y.rule := by
  have hrule {a : Assignment} {x : Diagnostic} (hx : x ∈ a.diagnostics tree) :
      x.rule = a.rule.id := by
    rw [Assignment.eq_diagnosticOn_of_mem hx]
    rfl
  rw [List.pairwise_flatMap]
  constructor
  · intro a _
    refine List.pairwise_of_forall_mem_list fun x hx y hy => ?_
    have heq : x.rule = y.rule := (hrule hx).trans (hrule hy).symm
    exact Nat.le_of_eq (congrArg c.place heq)
  · refine hc.assignments_pairwise.imp fun {a b} hlt x hx y hy => ?_
    rw [hrule hx, hrule hy]
    exact Nat.le_of_lt hlt

/-- A rule that a configuration asks for gives all diagnostics with its identifier. -/
theorem Wellformed.count_flatMap_diagnostics (hc : c.Wellformed) (tree : Node) {a : Assignment}
    (ha : c.Assigns a) (line : ℤ) :
    (c.assignments.flatMap (Assignment.diagnostics tree)).count (a.diagnosticOn line) =
      a.check.violationsOn tree line := by
  obtain ⟨before, after, hsplit⟩ := List.append_of_mem (mem_assignments_iff.mpr ha)
  have hpairwise := hc.assignments_pairwise
  rw [hsplit, List.pairwise_append, List.pairwise_cons] at hpairwise
  obtain ⟨_, ⟨hafter, _⟩, hbefore⟩ := hpairwise
  have hother {b : Assignment} (hne : c.place b.rule.id ≠ c.place a.rule.id) :
      a.diagnosticOn line ∉ b.diagnostics tree := by
    intro hmem
    have heq := congrArg Diagnostic.rule (Assignment.eq_diagnosticOn_of_mem hmem)
    exact hne (congrArg c.place heq.symm)
  have hnone {l : List Assignment} (hl : ∀ b ∈ l, c.place b.rule.id ≠ c.place a.rule.id) :
      (l.flatMap (Assignment.diagnostics tree)).count (a.diagnosticOn line) = 0 := by
    rw [List.count_eq_zero, List.mem_flatMap]
    rintro ⟨b, hb, hmem⟩
    exact hother (hl b hb) hmem
  rw [hsplit, List.flatMap_append, List.flatMap_cons, List.count_append, List.count_append,
    hnone fun b hb => Nat.ne_of_lt (hbefore b hb a (by simp)),
    hnone fun b hb => Nat.ne_of_gt (hafter b hb),
    Assignment.count_diagnostics]
  omega

/-- The diagnostics of the assignments, sorted by line, are in canonical form. -/
theorem Wellformed.canonical (hc : c.Wellformed) (tree : Node) :
    Canonical c tree
      (Linter.sortByLine (c.assignments.flatMap (Assignment.diagnostics tree))) := by
  have hperm := Linter.sortByLine_perm (c.assignments.flatMap (Assignment.diagnostics tree))
  refine ⟨?_, ?_, ?_⟩
  · rw [List.pairwise_iff_forall_sublist]
    intro x y hxy
    have hle := List.pairwise_iff_forall_sublist.mp (Linter.sortByLine_pairwise _) hxy
    by_cases hline : x.line = y.line
    · right
      -- Within a line, sorting leaves the order of the configuration.
      have hpair := hxy.filter fun d => d.line == y.line
      rw [Linter.filter_sortByLine] at hpair
      have hpair' : [x, y].Sublist (c.assignments.flatMap (Assignment.diagnostics tree)) := by
        simpa [hline] using hpair.trans List.filter_sublist
      exact ⟨hline,
        List.pairwise_iff_forall_sublist.mp (hc.flatMap_diagnostics_pairwise tree) hpair'⟩
    · left
      omega
  · intro a ha line
    rw [hperm.count_eq]
    exact hc.count_flatMap_diagnostics tree ha line
  · intro d hd
    obtain ⟨a, ha, hmem⟩ := List.mem_flatMap.mp (hperm.mem_iff.mp hd)
    exact ⟨a, mem_assignments_iff.mp ha, Assignment.eq_diagnosticOn_of_mem hmem⟩

/-- There is only one list in canonical form. -/
theorem Wellformed.canonical_unique (hc : c.Wellformed) {tree : Node} {ds ds' : List Diagnostic}
    (h : Canonical c tree ds) (h' : Canonical c tree ds') : ds = ds' := by
  apply List.Perm.eq_of_pairwise ?_ h.ordered h'.ordered
  · rw [List.perm_iff_count]
    intro d
    by_cases hd : ∃ a, c.Assigns a ∧ d = a.diagnosticOn d.line
    · obtain ⟨a, ha, hd⟩ := hd
      rw [hd, h.counted a ha, h'.counted a ha]
    · rw [List.count_eq_zero.mpr fun hmem => hd (h.nothingElse d hmem),
        List.count_eq_zero.mpr fun hmem => hd (h'.nothingElse d hmem)]
  · intro x y hx hy hxy hyx
    obtain ⟨a, ha, hxa⟩ := h.nothingElse x hx
    obtain ⟨b, hb, hyb⟩ := h'.nothingElse y hy
    have hline : x.line = y.line := by
      rcases hxy with hxy | hxy <;> rcases hyx with hyx | hyx <;> omega
    have hplace : c.place x.rule = c.place y.rule := by
      rcases hxy with hxy | hxy <;> rcases hyx with hyx | hyx <;> omega
    rw [hxa, hyb] at hplace
    obtain rfl := hc.assignment_unique ha hb hplace
    rw [hxa, hyb, hline]

end Config

/-- Linting with an accepted configuration gives the one list in canonical form. -/
theorem Linter.lint_eq_canonical {c : Config} (hc : c.Accepted) (tree : Node) :
    ∃ ds, (Linter.standard c).lint tree = .ok ds ∧ ∀ ds', Canonical c tree ds' ↔ ds' = ds := by
  have hwf := hc.wellformed
  refine ⟨_, hwf.lint_eq tree, fun ds' => ⟨fun h => ?_, ?_⟩⟩
  · exact hwf.canonical_unique h (hwf.canonical tree)
  · rintro rfl
    exact hwf.canonical tree

/-- A paragraph on line 4 with a heading in it whose line is unknown. -/
def headingInParagraph : Node :=
  .mk .document (some 1) [.mk .paragraph (some 4) [
    .mk (.text "It has been done. It has been said.") none [],
    .mk (.heading 2) none [.mk (.text "All Of It") none []]]]

/-- The built-in configuration is accepted, and linting with it gives a canonical form. -/
theorem Linter.lint_eq_canonical_default :
    Config.default.Accepted ∧
      ∃ ds, (Linter.standard Config.default).lint headingInParagraph = .ok ds ∧
        Canonical Config.default headingInParagraph ds := by
  have hc : Config.default.Accepted := @Config.Accepted.built Config.default.rules "text" _ rfl
  obtain ⟨ds, hlint, hds⟩ := Linter.lint_eq_canonical hc headingInParagraph
  exact ⟨hc, ds, hlint, (hds ds).mpr rfl⟩

end ProseCheck
