import ProseCheck.Proofs.CanonicalForm
import ProseCheck.Proofs.InlinePlaces
import ProseCheck.Proofs.NeutralEdit
import ProseCheck.Proofs.TextReport

/-!
# The positions of diagnostics

Most nodes of a document have no line, but rules flag headings and paragraphs only, and in a
document that was read from a source these have one. So every diagnostic of a source stands on one
of its lines, the first line of a heading or of a paragraph, and none is without a position.
-/

namespace ProseCheck

open Document Markdown

/-! ### Where diagnostics come from -/

/-- A diagnostic of a document is that of a rule for a heading or a paragraph in it. -/
theorem Config.Wellformed.exists_passage_of_mem_lint {c : Config} (hc : c.Wellformed) {tree : Node}
    {ds : List Diagnostic} (hlint : (Linter.standard c).lint tree = .ok ds) {d : Diagnostic}
    (hd : d ∈ ds) :
    ∃ n ∈ tree.nodes, n.isPassage = true ∧ ∃ rule entry, d = Linter.diagnostic rule entry n := by
  rw [hc.lint_eq] at hlint
  obtain rfl := Except.ok.inj hlint
  rw [(Linter.sortByLine_perm _).mem_iff] at hd
  obtain ⟨a, _, hd⟩ := List.mem_flatMap.mp hd
  rw [a.diagnostics_eq_flatMap] at hd
  obtain ⟨n, hn, hd⟩ := List.mem_flatMap.mp hd
  obtain ⟨hmem, hpassage⟩ := List.mem_filter.mp hn
  rw [← Node.nodes_eq_preorder] at hmem
  exact ⟨n, hmem, hpassage, a.rule, a.entry, List.eq_of_mem_replicate hd⟩

/-- The node of an element is a heading or a paragraph if the element is. -/
theorem Markdown.Element.isPassage_node (e : Element) : e.node.isPassage = e.role.isPassage := by
  obtain ⟨role, start, content, children⟩ := e
  cases role <;> rfl

/-- The node of an element has the first line of the element, counted from one. -/
theorem Markdown.Element.lineNumber_node {e : Element} {a : ℕ} (hstart : e.start = some a) :
    e.node.lineNumber = (a : ℤ) + 1 := by
  obtain ⟨role, start, content, children⟩ := e
  obtain rfl : start = some a := hstart
  cases role <;> rfl

/-- Every heading and every paragraph of a document stands for an element that can be seen. -/
theorem Markdown.exists_element_of_isPassage {es : List Element} {n : Node}
    (hn : n ∈ (toDocument es).nodes) (hpassage : n.isPassage = true) :
    ∃ e ∈ visibleAll es, e.role.isPassage = true ∧ n = e.node := by
  have hroot : n.content ≠ .document := by
    intro hcontent
    simp [Node.isPassage, Node.isA, hcontent, Content.nodeClass] at hpassage
  obtain ⟨e, he, _, rfl⟩ := exists_element_of_mem_nodes hn hroot
  exact ⟨e, he, by rwa [← e.isPassage_node], rfl⟩

/-- The identifier of a rule has no brackets and no line feeds. -/
theorem Rule.plain_id (rule : Rule) :
    .scalar '[' ∉ Str.ofString rule.id ∧ .scalar ']' ∉ Str.ofString rule.id ∧
      .scalar '\n' ∉ Str.ofString rule.id := by
  cases rule <;> decide

/-- A diagnostic with a line number is read back from its line if its message is one line. -/
theorem Linter.legible_diagnostic_iff {rule : Rule} {entry : Entry} {n : Node}
    (hline : 0 ≤ n.lineNumber) :
    Report.Legible (diagnostic rule entry n) ↔
      n.lineNumber.natAbs < 10 ^ Text.digitLimit ∧ .scalar '\n' ∉ entry.message := by
  constructor
  · intro h
    exact ⟨h.bounded, h.message⟩
  · rintro ⟨hbounded, hmessage⟩
    obtain ⟨hopens, hcloses, hfeed⟩ := rule.plain_id
    exact ⟨hline, hbounded, hmessage, hcloses, hfeed, fun h => hopens (h.subset (by simp))⟩

/-! ### Positions -/

/-- A diagnostic stands on one of the first `count` lines, the first line of a heading or of a
paragraph. Its position is never what keeps it from being read back from its line in a report. -/
structure Diagnostic.Positioned (count : ℕ) (es : List Element) (d : Diagnostic) : Prop where
  lower : 1 ≤ d.line
  upper : d.line ≤ count
  passage : ∃ e ∈ visibleAll es, e.role.isPassage = true ∧ ∃ a, e.start = some a ∧ d.line = a + 1
  legible : Report.Legible d ↔ d.line.natAbs < 10 ^ Text.digitLimit ∧ .scalar '\n' ∉ d.message

/-- The diagnostics of a document whose headings and paragraphs have a place are positioned. -/
theorem Config.Wellformed.exists_positioned {c : Config} (hc : c.Wellformed) {count : ℕ}
    {es : List Element} (hplaced : Placed count es) :
    ∃ ds, (Linter.standard c).lint (toDocument es) = .ok ds ∧
      ∀ d ∈ ds, d.Positioned count es := by
  have hlint := hc.lint_eq (toDocument es)
  refine ⟨_, hlint, fun d hd => ?_⟩
  obtain ⟨n, hn, hpassage, rule, entry, rfl⟩ := hc.exists_passage_of_mem_lint hlint hd
  obtain ⟨e, he, hrole, rfl⟩ := exists_element_of_isPassage hn hpassage
  obtain ⟨a, ha, hstart⟩ := hplaced e he hrole
  have hline : (Linter.diagnostic rule entry e.node).line = (a : ℤ) + 1 :=
    Element.lineNumber_node hstart
  exact {
    lower := by omega
    upper := by omega
    passage := ⟨e, he, hrole, a, hstart, hline⟩
    legible := Linter.legible_diagnostic_iff (by rw [Element.lineNumber_node hstart]; omega) }

/-- The diagnostics under an accepted configuration are positioned in every document whose headings
and paragraphs have a place. -/
theorem Linter.lint_positioned {c : Config} (hc : c.Accepted) {count : ℕ} {es : List Element}
    (hplaced : Placed count es) :
    ∃ ds, (Linter.standard c).lint (toDocument es) = .ok ds ∧ ∀ d ∈ ds, d.Positioned count es :=
  hc.wellformed.exists_positioned hplaced

/-- A configuration that asks for headings in sentence case only. -/
def headingsOnly : Config :=
  ⟨[(Rule.headingCase.key, .entry ⟨.warning, "Heading should be in sentence case.", []⟩)], "text"⟩

/-- A heading of a list item in a quotation on the second line. -/
def quotedHeading : List Element :=
  [.mk (.other "blockquote") (some 1) "" [.mk (.other "bullet_list") (some 1) "" [
    .mk (.other "list_item") (some 1) "" [.mk (.heading "h2") (some 1) "" [
      .mk .inline (some 1) "All Of It" [.mk .text none "All Of It" []]]]]]]

/-- The heading is reported on its own line, and the diagnostic can be read back. -/
theorem Linter.lint_positioned_quoted :
    headingsOnly.Accepted ∧ Placed 2 quotedHeading ∧
      ∃ d, (Linter.standard headingsOnly).lint (toDocument quotedHeading) = .ok [d] ∧ d.line = 2 ∧
        Report.Legible d := by
  have hc : headingsOnly.Accepted := @Config.Accepted.built headingsOnly.rules "text" _ rfl
  have htext : Placed 2 [.mk .text none "All Of It" []] := placed_mk_iff.mpr ⟨nofun, by simp⟩
  have hplaced : Placed 2 quotedHeading := by
    repeat refine placed_block (by decide) ?_
    exact htext
  have hone : (Linter.standard headingsOnly).lint (toDocument quotedHeading) =
      .ok [⟨2, "heading-case", .warning, "Heading should be in sentence case."⟩] := by
    have hdiagnostics : headingsOnly.assignments.flatMap
        (Assignment.diagnostics (toDocument quotedHeading)) =
          [⟨2, "heading-case", .warning, "Heading should be in sentence case."⟩] := by
      rfl
    rw [hc.wellformed.lint_eq, hdiagnostics]
    simp [Linter.sortByLine]
  obtain ⟨ds, hlint, hds⟩ := Linter.lint_positioned hc hplaced
  obtain rfl := Except.ok.inj (hlint.symm.trans hone)
  have hbounded : (2 : ℤ).natAbs < 10 ^ Text.digitLimit := Text.lt_ten_pow_digitLimit (by decide)
  have hlegible := (hds _ List.mem_cons_self).legible
  exact ⟨hc, hplaced, _, hone, rfl, hlegible.mpr ⟨hbounded, by decide⟩⟩

/-- The diagnostics of a source that is read as CommonMark are positioned on its lines: its headings
and paragraphs have a place. -/
theorem Linter.exists_positioned_commonMark {c : Config} (hc : c.Accepted) {source : String}
    {tree : Node} (hparse : Markdown.parse commonMark source = .ok tree) :
    ∃ es ds, commonMark source = .ok es ∧ tree = toDocument es ∧
      (Linter.standard c).lint tree = .ok ds ∧
      ∀ d ∈ ds, d.Positioned (sourceLines source.toList).length es := by
  unfold Markdown.parse commonMark at hparse
  cases hes : sourceElements source with
  | error fault => simp [hes, Except.map, Except.mapError] at hparse
  | ok es =>
    simp only [hes, Except.mapError, Except.map] at hparse
    obtain rfl := Except.ok.inj hparse
    obtain ⟨ds, hlint, hds⟩ := hc.wellformed.exists_positioned (placed_sourceElements hes)
    exact ⟨es, ds, by simp [commonMark, hes, Except.mapError], rfl, hlint, hds⟩

end ProseCheck
