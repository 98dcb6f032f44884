import ProseCheck.Proofs.LineRoundTrip
import ProseCheck.Report.Render
import Mathlib.Data.List.Forall2

/-!
# Reading a text report

The report of several files joins the reports of the files, each of which joins lines. A line is
never empty, so both joins together are one join of all lines, and a file without diagnostics leaves
no line. Where no line feed gets into a line, the lines of the report are the lines that were
written, and each of them gives its diagnostic back.
-/

namespace ProseCheck.Report

open FileSystem (Path)

/-- The lines of a text, cut at every line feed. -/
def lines (text : Str) : List Str :=
  text.splitOn (.scalar '\n')

/-- The records of the diagnostics of several files. -/
def allRecords (results : List (Path × List Diagnostic)) : List Record :=
  results.flatMap fun (file, ds) => recordsOf file ds

/-- The line of a record. -/
def Record.toLine (r : Record) : Str :=
  writeLine r.file r.diagnostic

/-- A file name that has nothing in it that could end it. -/
structure PlainName (file : Str) : Prop where
  feed : .scalar '\n' ∉ file
  mark : ¬HasLineMark file

/-- A diagnostic that its line gives back: its number is written in digits that can be read, its
message is one line, and its rule has no bracket that could be one of the line. -/
structure Legible (d : Diagnostic) : Prop where
  nonneg : 0 ≤ d.line
  bounded : d.line.natAbs < 10 ^ Text.digitLimit
  message : .scalar '\n' ∉ d.message
  closes : .scalar ']' ∉ d.rule
  feed : .scalar '\n' ∉ d.rule
  opens : ¬[.scalar ' ', .scalar '['] <:+: d.rule

/-! ### One line -/

/-- A line is not empty. -/
theorem writeLine_ne_nil (file : Str) (d : Diagnostic) : writeLine file d ≠ [] := by
  simp [writeLine_eq_writtenLine, writtenLine]

/-- A line starts with the name of its file and a colon. -/
theorem name_prefix_writeLine (file : Str) (d : Diagnostic) :
    file ++ Str.ofString ":" <+: writeLine file d := by
  rw [writeLine_eq_writtenLine, writtenLine, List.prefix_append_right_inj]
  exact List.prefix_append [Point.scalar ':'] _

section Line

variable {file : Str} {d : Diagnostic} (hfile : PlainName file) (hd : Legible d)

include hfile hd

/-- A legible diagnostic is read from its line. -/
theorem readLine_writeLine_of_legible : readLine (writeLine file d) = .ok (some d) := by
  have hopens : ¬OpensBracket d.rule := by
    rintro ⟨before, after, hsplit, _⟩
    exact hd.opens ⟨before, after, by simp [hsplit]⟩
  rw [readLine_eq_ok_some_iff, writeLine_eq_writtenLine]
  refine ⟨Text.writeInteger d.line, parts?_writtenLine_iff.mpr ?_, ?_, ?_⟩
  · exact ⟨rfl, hd.nonneg, hfile.feed, hfile.mark, hd.message, hd.closes, hopens⟩
  · exact Text.length_writeInteger_le hd.nonneg hd.bounded
  · exact (Text.decimalValue_writeInteger hd.nonneg).symm

/-- No line feed is in the line of a legible diagnostic. -/
theorem feed_not_mem_writeLine : .scalar '\n' ∉ writeLine file d := by
  have hnumber : .scalar '\n' ∉ Str.ofChars (Text.writeInteger d.line) :=
    not_mem_ofChars_writeInteger (by decide) (by decide) d.line
  have hseverity : .scalar '\n' ∉ Str.ofString d.severity.name := by
    cases d.severity <;> decide
  simp [writeLine_eq_writtenLine, writtenLine, writtenEnding, hfile.feed, hnumber, hd.message,
    hd.feed, hseverity]

end Line

/-! ### Joining and cutting -/

/-- Only a join of no texts is empty, if no text is. -/
theorem eq_nil_of_intercalate_eq_nil {sep : Str} {texts : List Str}
    (htexts : ∀ text ∈ texts, text ≠ []) (hjoin : sep.intercalate texts = []) : texts = [] := by
  cases texts with
  | nil => rfl
  | cons text texts =>
    have hempty : text = [] := by
      cases texts with
      | nil => simpa using hjoin
      | cons next texts =>
        simp only [List.intercalate_cons_cons, List.append_eq_nil_iff] at hjoin
        exact hjoin.1.1
    exact absurd hempty (htexts text (by simp))

/-- A join of two groups of texts has a separator between the joins of the groups. -/
theorem intercalate_append {sep : Str} {texts texts' : List Str} (hne : texts ≠ [])
    (hne' : texts' ≠ []) :
    sep.intercalate (texts ++ texts') = sep.intercalate texts ++ sep ++ sep.intercalate texts' := by
  induction texts with
  | nil => exact absurd rfl hne
  | cons text texts ih =>
    cases texts with
    | nil => simp [List.intercalate_cons_of_ne_nil hne']
    | cons next texts => simpa using ih (by simp)

/-- Joining the joins of groups of texts, without those that are empty, is joining all texts, if no
text is empty. -/
theorem intercalate_filter_intercalate {sep : Str} {groups : List (List Str)}
    (htexts : ∀ g ∈ groups, ∀ text ∈ g, text ≠ []) :
    sep.intercalate ((groups.map sep.intercalate).filter (· != [])) =
      sep.intercalate groups.flatten := by
  induction groups with
  | nil => rfl
  | cons g groups ih =>
    have hrest := ih fun g' hg' => htexts g' (by simp [hg'])
    have hkept {g' : List Str} (hg' : g' ∈ g :: groups) (hne : g' ≠ []) :
        (sep.intercalate g' != []) = true := by
      rw [bne_iff_ne]
      exact fun hempty => hne (eq_nil_of_intercalate_eq_nil (htexts g' hg') hempty)
    by_cases hg : g = []
    · subst hg
      simpa using hrest
    rw [List.map_cons, List.filter_cons_of_pos (p := (· != [])) (hkept (by simp) hg),
      List.flatten_cons]
    -- A separator follows the first group only if a later group has texts.
    by_cases hflat : groups.flatten = []
    · have hnone : (groups.map sep.intercalate).filter (· != []) = [] := by
        rw [List.filter_eq_nil_iff]
        intro text htext
        obtain ⟨g', hg', rfl⟩ := List.mem_map.mp htext
        rw [List.flatten_eq_nil_iff.mp hflat g' hg']
        simp
      simp [hnone, hflat]
    · have hsome : (groups.map sep.intercalate).filter (· != []) ≠ [] := by
        obtain ⟨g', hg', hne⟩ := List.flatten_ne_nil_iff.mp hflat
        refine List.ne_nil_of_mem (List.mem_filter.mpr ⟨List.mem_map.mpr ⟨g', hg', rfl⟩, ?_⟩)
        exact hkept (by simp [hg']) hne
      rw [List.intercalate_cons_of_ne_nil hsome, hrest, intercalate_append hg hflat]

/-- The lines of joined texts are the texts, if there are any and none has a line feed. -/
theorem lines_intercalate {texts : List Str} (hne : texts ≠ [])
    (hfeed : ∀ text ∈ texts, .scalar '\n' ∉ text) :
    lines (List.intercalate "\n" texts) = texts := by
  have hseparator : Str.ofString "\n" = [.scalar '\n'] := rfl
  rw [lines, hseparator]
  exact List.splitOn_intercalate (.scalar '\n') hfeed hne

/-! ### The whole report -/

section Report

variable (results : List (Path × List Diagnostic))

/-- The records hold the diagnostics of the files in turn. -/
theorem map_diagnostic_allRecords :
    (allRecords results).map Record.diagnostic = results.flatMap Prod.snd := by
  simp [allRecords, recordsOf, List.map_flatMap, Function.comp_def]

/-- A text report is one join of the lines of all records. -/
theorem render_text :
    render results "text" =
      .ok (List.intercalate "\n" ((allRecords results).map Record.toLine)) := by
  have hgroups : List.intercalate "\n"
      (((results.map fun (file, ds) => ds.map (writeLine file.name)).map
        (List.intercalate "\n")).filter (· != [])) =
      List.intercalate "\n"
        (results.map fun (file, ds) => ds.map (writeLine file.name)).flatten := by
    apply intercalate_filter_intercalate
    intro g hg text htext
    obtain ⟨⟨file, ds⟩, _, rfl⟩ := List.mem_map.mp hg
    obtain ⟨d, _, rfl⟩ := List.mem_map.mp htext
    exact writeLine_ne_nil file.name d
  have hlines : (allRecords results).map Record.toLine =
      (results.map fun (file, ds) => ds.map (writeLine file.name)).flatten := by
    simp [allRecords, recordsOf, Record.toLine, List.flatMap_def, Function.comp_def]
  rw [hlines, ← hgroups, List.map_map]
  rfl

/-- There are records unless no file has diagnostics. -/
theorem allRecords_eq_nil_iff : allRecords results = [] ↔ ∀ r ∈ results, r.2 = [] := by
  simp [allRecords, recordsOf]

end Report

section Legible

variable {results : List (Path × List Diagnostic)}
  (hnames : ∀ r ∈ results, PlainName r.1.name) (hlegible : ∀ r ∈ results, ∀ d ∈ r.2, Legible d)

include hnames hlegible

/-- Every record of the report has a plain name and a legible diagnostic. -/
theorem plainName_and_legible_of_mem {record : Record} (hmem : record ∈ allRecords results) :
    PlainName record.file ∧ Legible record.diagnostic := by
  obtain ⟨⟨file, ds⟩, hfile, hrecord⟩ := List.mem_flatMap.mp hmem
  obtain ⟨d, hd, rfl⟩ := List.mem_map.mp hrecord
  exact ⟨hnames _ hfile, hlegible _ hfile d hd⟩

/-- A report with legible diagnostics has the lines that were written. -/
theorem lines_report (hne : allRecords results ≠ []) :
    lines (List.intercalate "\n" ((allRecords results).map Record.toLine)) =
      (allRecords results).map Record.toLine := by
  refine lines_intercalate (by simpa using hne) fun text htext => ?_
  obtain ⟨record, hmem, rfl⟩ := List.mem_map.mp htext
  obtain ⟨hname, hd⟩ := plainName_and_legible_of_mem hnames hlegible hmem
  exact feed_not_mem_writeLine hname hd

/-- Every line of the report is read as the diagnostic of its record. -/
theorem map_readLine_lines :
    ((allRecords results).map Record.toLine).map readLine =
      (results.flatMap Prod.snd).map fun d => .ok (some d) := by
  rw [← map_diagnostic_allRecords, List.map_map, List.map_map]
  refine List.map_congr_left fun record hmem => ?_
  obtain ⟨hname, hd⟩ := plainName_and_legible_of_mem hnames hlegible hmem
  rw [Function.comp_apply, Function.comp_apply, Record.toLine]
  exact readLine_writeLine_of_legible hname hd

end Legible

/-- The text report of several files is empty if no file has diagnostics. Otherwise its lines are
read as the diagnostics of all files in turn, and each line starts with the name of the file that
its diagnostic belongs to. -/
theorem readLine_lines_render_text {results : List (Path × List Diagnostic)}
    (hnames : ∀ r ∈ results, PlainName r.1.name)
    (hlegible : ∀ r ∈ results, ∀ d ∈ r.2, Legible d) :
    ∃ report, render results "text" = .ok report ∧
      ((∀ r ∈ results, r.2 = []) → report = []) ∧
      ((∃ r ∈ results, r.2 ≠ []) →
        (lines report).map readLine = (results.flatMap Prod.snd).map (fun d => .ok (some d)) ∧
        List.Forall₂ (fun line record => record.file ++ Str.ofString ":" <+: line)
          (lines report) (allRecords results)) := by
  refine ⟨_, render_text results, fun hnone => ?_, fun hsome => ?_⟩
  · rw [(allRecords_eq_nil_iff results).mpr hnone]
    rfl
  · have hne : allRecords results ≠ [] := by
      obtain ⟨r, hr, hds⟩ := hsome
      exact fun hnil => hds ((allRecords_eq_nil_iff results).mp hnil r hr)
    rw [lines_report hnames hlegible hne]
    refine ⟨map_readLine_lines hnames hlegible, ?_⟩
    rw [List.forall₂_map_left_iff, List.forall₂_same]
    intro record _
    exact name_prefix_writeLine record.file record.diagnostic

/-- Two files with a diagnostic each and one without diagnostics between them. The first message
looks like a line of the second file. -/
def fileWithoutDiagnosticsBetween : List (Path × List Diagnostic) :=
  [(⟨"", ["docs", "a.md"]⟩, [⟨3, "heading-case", .warning, "c.md:7: [x] [y] [info]"⟩]),
    (⟨"", ["b.md"]⟩, []),
    (⟨"/", ["c.md"]⟩, [⟨0, "max words", .error, ""⟩])]

/-- The file without diagnostics leaves no line, and the lines of the others are told apart. -/
theorem readLine_lines_render_text_between :
    (∀ r ∈ fileWithoutDiagnosticsBetween, PlainName r.1.name) ∧
      (∀ r ∈ fileWithoutDiagnosticsBetween, ∀ d ∈ r.2, Legible d) ∧
      ∃ report, render fileWithoutDiagnosticsBetween "text" = .ok report ∧
        (lines report).map readLine =
          [.ok (some ⟨3, "heading-case", .warning, "c.md:7: [x] [y] [info]"⟩),
            .ok (some ⟨0, "max words", .error, ""⟩)] := by
  have hplain {file : Str} (hfeed : .scalar '\n' ∉ file) (hcolon : .scalar ':' ∉ file) :
      PlainName file := by
    refine ⟨hfeed, ?_⟩
    rintro ⟨before, digits, after, hsplit, _⟩
    exact hcolon (by simp [hsplit])
  have hopens {rule : Str} (hbracket : .scalar '[' ∉ rule) :
      ¬[.scalar ' ', .scalar '['] <:+: rule :=
    fun hpart => hbracket (hpart.subset (by simp))
  have hnames : ∀ r ∈ fileWithoutDiagnosticsBetween, PlainName r.1.name := by
    simp only [fileWithoutDiagnosticsBetween, List.forall_mem_cons, List.not_mem_nil,
      false_implies, implies_true, and_true]
    exact ⟨hplain (by decide) (by decide), hplain (by decide) (by decide),
      hplain (by decide) (by decide)⟩
  have hlegible : ∀ r ∈ fileWithoutDiagnosticsBetween, ∀ d ∈ r.2, Legible d := by
    simp only [fileWithoutDiagnosticsBetween, List.forall_mem_cons, List.not_mem_nil,
      false_implies, implies_true, and_true, true_and]
    exact ⟨⟨by decide, Text.lt_ten_pow_digitLimit (by decide), by decide, by decide, by decide,
        hopens (by decide)⟩,
      ⟨by decide, Text.lt_ten_pow_digitLimit (by decide), by decide, by decide, by decide,
        hopens (by decide)⟩⟩
  obtain ⟨report, hrender, _, hsome⟩ := readLine_lines_render_text hnames hlegible
  exact ⟨hnames, hlegible, report, hrender,
    (hsome ⟨_, List.mem_cons_self, by simp⟩).1⟩

end ProseCheck.Report
