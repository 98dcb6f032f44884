import ProseCheck.Proofs.RunOutcome
import ProseCheck.Proofs.TextReport

/-!
# Runs over several files

A run over several files combines the runs over each of them alone. It stops if one of those stops.
Otherwise it fails if one of them fails, and it prints what they print: their lines one after the
other in a text report, and one array with their records in a JSON report.
-/

namespace ProseCheck

open FileSystem (Path)

/-! ### What is printed -/

namespace Report

/-- Texts joined by line feeds, with one more line feed at the end, are the texts with a line feed
after each. -/
theorem intercalate_append_feed {texts : List Str} (hne : texts ≠ []) :
    List.intercalate "\n" texts ++ Str.ofString "\n" =
      texts.flatMap fun text => text ++ Str.ofString "\n" := by
  induction texts with
  | nil => exact absurd rfl hne
  | cons text texts ih =>
    cases texts with
    | nil => simp
    | cons text' texts =>
      rw [List.intercalate_cons_cons, List.flatMap_cons, ← ih (List.cons_ne_nil _ _)]
      simp only [List.append_assoc]

/-- What is printed of a text report is the lines of its records, each with a line feed. -/
theorem printed_lines (records : List Record) :
    (if List.intercalate (Str.ofString "\n") (records.map Record.toLine) = [] then []
      else List.intercalate (Str.ofString "\n") (records.map Record.toLine) ++
        Str.ofString "\n") = records.flatMap fun r => r.toLine ++ Str.ofString "\n" := by
  have hlines : ∀ text ∈ records.map Record.toLine, text ≠ [] := by
    intro text htext
    obtain ⟨r, _, rfl⟩ := List.mem_map.mp htext
    exact writeLine_ne_nil r.file r.diagnostic
  by_cases hrecords : records = []
  · simp [hrecords]
  · have hne : records.map Record.toLine ≠ [] := by simpa using hrecords
    have hreport : List.intercalate (Str.ofString "\n") (records.map Record.toLine) ≠ [] :=
      fun hempty => hne (eq_nil_of_intercalate_eq_nil hlines hempty)
    rw [if_neg hreport, intercalate_append_feed hne, List.flatMap_map]

/-- The text of records is never empty. -/
theorem recordsText_ne_nil (records : List Record) : recordsText records ≠ [] := by
  intro hempty
  cases records with
  | nil => simp [recordsText, Json.render, Json.writeValue, Str.ofString] at hempty
  | cons r records => simp [recordsText, Json.render, Json.writeValue] at hempty

end Report

/-- The text of joined strings is made of their texts. -/
theorem Str.ofString_join (strings : List String) :
    Str.ofString (String.join strings) = strings.flatMap Str.ofString := by
  induction strings with
  | nil => simp
  | cons s strings ih => rw [String.join_cons, ofString_append, ih, List.flatMap_cons]

/-! ### One file of several -/

namespace Command

/-- The request to check one file alone. -/
def LintRequest.alone (request : LintRequest) (path : Path) : LintRequest :=
  { request with files := [path] }

/-- The request for one file alone is about that file. -/
@[simp]
theorem LintRequest.files_alone (request : LintRequest) (path : Path) :
    (request.alone path).files = [path] := rfl

variable {reader : Markdown.Reader} {fs : FileSystem} {request : LintRequest}

/-- The files of a request are checked in a known format, each with its diagnostics, and what is to
be said about them can be encoded. -/
structure Checks (reader : Markdown.Reader) (fs : FileSystem) (request : LintRequest)
    (config : Config) (diagnostics : Path → List Diagnostic) : Prop where
  /-- All files are there. -/
  regular : ∀ path ∈ request.files, fs.isFile path = true
  /-- The configuration is loaded. -/
  loads : Config.load fs request.config fs.workingPath = .ok config
  /-- The files have these diagnostics. -/
  lints : ∀ path ∈ request.files,
    (Linter.standard config).lintFile reader fs path = .ok (diagnostics path)
  /-- The format is known. -/
  format : config.format = "text" ∨ config.format = "json"
  /-- The records of the files can be encoded. -/
  encodes : ∀ path ∈ request.files, ∀ r ∈ Report.recordsOf path (diagnostics path), r.Encodable

section Checks

variable {config : Config} {diagnostics : Path → List Diagnostic}

/-- Files that are checked together are checked alone. -/
theorem Checks.alone (h : Checks reader fs request config diagnostics) {path : Path}
    (hmem : path ∈ request.files) : Checks reader fs (request.alone path) config diagnostics := by
  have hfile {other : Path} (hother : other ∈ (request.alone path).files) :
      other ∈ request.files := by
    rw [request.files_alone, List.mem_singleton] at hother
    rwa [hother]
  exact ⟨fun _ hother => h.regular _ (hfile hother), h.loads,
    fun _ hother => h.lints _ (hfile hother), h.format, fun _ hother => h.encodes _ (hfile hother)⟩

/-- The report about checked files is rendered and can be encoded. -/
theorem Checks.exists_render (h : Checks reader fs request config diagnostics) :
    ∃ report : String, Report.render (request.files.map fun path => (path, diagnostics path))
      config.format = .ok report := by
  rw [Report.exists_render_eq_ofString_iff h.format, Report.allRecords, List.flatMap_map]
  intro r hr
  obtain ⟨path, hmem, hrecord⟩ := List.mem_flatMap.mp hr
  exact h.encodes path hmem r hrecord

/-- A run that delivers a report checks its files. -/
theorem Reports.exists_checks {results : List (Path × List Diagnostic)} {report : Str}
    (h : Reports reader fs request config results report) (hsend : Sendable request.output report)
    (hfiles : request.files ≠ []) : ∃ diagnostics, Checks reader fs request config diagnostics := by
  have hformat := (h.ready hfiles).format
  obtain ⟨text, rfl⟩ := Str.encodable_iff_exists_ofString.mp hsend.report
  have hrecords := (Report.exists_render_eq_ofString_iff hformat).mp ⟨text, h.renders⟩
  rw [Report.forall_mem_allRecords_iff h.lints] at hrecords
  have hlints := Linter.exists_lintFiles_iff.mp ⟨results, h.lints⟩
  choose! diagnostics hdiagnostics using hlints
  exact ⟨diagnostics, h.regular, h.loads, hdiagnostics, hformat,
    fun path hmem => hrecords path hmem _ (hdiagnostics path hmem)⟩

/-- Files that are checked one by one are checked together: every run loads the same
configuration. -/
theorem exists_checks_of_alone (hfiles : request.files ≠ [])
    (halone : ∀ path ∈ request.files, ∃ config diagnostics,
      Checks reader fs (request.alone path) config diagnostics) :
    ∃ config diagnostics, Checks reader fs request config diagnostics := by
  obtain ⟨first, hfirst⟩ := List.exists_mem_of_ne_nil _ hfiles
  obtain ⟨config, _, hconfig⟩ := halone first hfirst
  have hpath : ∀ path ∈ request.files, fs.isFile path = true ∧
      ∃ ds, (Linter.standard config).lintFile reader fs path = .ok ds ∧
        ∀ r ∈ Report.recordsOf path ds, r.Encodable := by
    intro path hmem
    obtain ⟨config', diagnostics, h⟩ := halone path hmem
    obtain rfl : config' = config := Except.ok.inj (h.loads.symm.trans hconfig.loads)
    exact ⟨h.regular path (by simp), diagnostics path, h.lints path (by simp),
      h.encodes path (by simp)⟩
  choose! diagnostics hdiagnostics using fun path hmem => (hpath path hmem).2
  exact ⟨config, diagnostics, fun path hmem => (hpath path hmem).1, hconfig.loads,
    fun path hmem => (hdiagnostics path hmem).1, hconfig.format,
    fun path hmem => (hdiagnostics path hmem).2⟩

/-! ### What a run without a file for its report does -/

section Printed

variable (houtput : request.output = none)

include houtput

/-- The report of checked files is printed and decides the exit status. -/
theorem Checks.printed (h : Checks reader fs request config diagnostics) {report : Str}
    (hrender : Report.render (request.files.map fun path => (path, diagnostics path))
      config.format = .ok report) :
    ¬(runLint reader fs request).Stops ∧
    Str.ofString (runLint reader fs request).output =
      (if report = [] then [] else report ++ Str.ofString "\n") ∧
    (runLint reader fs request).status =
      if request.files.any fun path => hasErrors (diagnostics path) then 1 else 0 := by
  obtain ⟨text, htext⟩ := h.exists_render
  obtain rfl : Str.ofString text = report := Except.ok.inj (htext.symm.trans hrender)
  have hreports : Reports reader fs request config
      (request.files.map fun path => (path, diagnostics path)) text :=
    ⟨⟨h.regular, h.loads, Linter.lintFiles_eq_ok h.lints, hrender⟩, by simp [houtput]⟩
  have hdelivers := hreports.delivers ⟨Str.encodable_ofString text, by simp [houtput]⟩
  refine ⟨hdelivers.completes, ?_, ?_⟩
  · rw [(hdelivers.printed houtput).2, ofString_printed]
  · rw [hdelivers.status, List.any_map]
    rfl

/-- A run stops exactly when its files are not checked. -/
theorem stops_iff_not_checks (hfiles : request.files ≠ []) :
    (runLint reader fs request).Stops ↔
      ¬∃ config diagnostics, Checks reader fs request config diagnostics := by
  constructor
  · rintro hstops ⟨config, diagnostics, h⟩
    obtain ⟨report, hrender⟩ := h.exists_render
    exact (h.printed houtput hrender).1 hstops
  · intro hnot
    by_cases hreports : ∃ config results report, Reports reader fs request config results report
    · obtain ⟨config, results, report, h⟩ := hreports
      exact (h.interrupted fun hsend => hnot ⟨config, h.exists_checks hsend hfiles⟩).stops
    · simp only [not_exists] at hreports
      exact (stopped_of_not_reports hreports).1.stops

/-- A run in the text format prints the lines of its files in turn. -/
theorem Checks.output_text (h : Checks reader fs request config diagnostics)
    (hformat : config.format = "text") :
    Str.ofString (runLint reader fs request).output = request.files.flatMap fun path =>
      (Report.recordsOf path (diagnostics path)).flatMap fun r =>
        r.toLine ++ Str.ofString "\n" := by
  have hrender := @Report.render_text (request.files.map fun path => (path, diagnostics path))
  rw [← hformat] at hrender
  obtain ⟨_, hprinted, _⟩ := h.printed houtput hrender
  rw [hprinted, Report.printed_lines, Report.allRecords, List.flatMap_map, List.flatMap_assoc]

/-- A run in the JSON format prints one array with the records of its files in turn. -/
theorem Checks.output_json (h : Checks reader fs request config diagnostics)
    (hformat : config.format = "json") :
    Str.ofString (runLint reader fs request).output =
      Report.recordsText (request.files.flatMap fun path =>
        Report.recordsOf path (diagnostics path)) ++ Str.ofString "\n" := by
  have hrecords : Report.allRecords (request.files.map fun path => (path, diagnostics path)) =
      request.files.flatMap fun path => Report.recordsOf path (diagnostics path) := by
    rw [Report.allRecords, List.flatMap_map]
  obtain ⟨report, hrender⟩ := h.exists_render
  have hjson := Report.render_json
    ((Report.exists_render_eq_ofString_iff h.format).mp ⟨report, hrender⟩)
  rw [← hformat, hrecords] at hjson
  obtain ⟨_, hprinted, _⟩ := h.printed houtput hjson
  rw [hprinted, if_neg (Report.recordsText_ne_nil _)]

/-- The exit status of a run is the maximum of the exit statuses that its files have alone. -/
theorem Checks.max?_status (h : Checks reader fs request config diagnostics)
    (hfiles : request.files ≠ []) :
    (request.files.map fun path => (runLint reader fs (request.alone path)).status).max? =
      some (runLint reader fs request).status := by
  have hstatus : (runLint reader fs request).status =
      if request.files.any fun path => hasErrors (diagnostics path) then 1 else 0 := by
    obtain ⟨report, hrender⟩ := h.exists_render
    exact (h.printed houtput hrender).2.2
  have halone : ∀ path ∈ request.files, (runLint reader fs (request.alone path)).status =
      if hasErrors (diagnostics path) then 1 else 0 := by
    intro path hmem
    have hchecks := h.alone hmem
    obtain ⟨report, hrender⟩ := hchecks.exists_render
    have houtput' : (request.alone path).output = none := houtput
    simpa using (hchecks.printed houtput' hrender).2.2
  rw [List.max?_eq_some_iff, hstatus]
  constructor
  · split
    case isTrue hany =>
      obtain ⟨path, hmem, herrors⟩ := List.any_eq_true.mp hany
      refine List.mem_map.mpr ⟨path, hmem, ?_⟩
      rw [halone path hmem, if_pos herrors]
    case isFalse hnone =>
      obtain ⟨path, hmem⟩ := List.exists_mem_of_ne_nil _ hfiles
      have herrors : ¬hasErrors (diagnostics path) = true :=
        fun herrors => hnone (List.any_eq_true.mpr ⟨path, hmem, herrors⟩)
      refine List.mem_map.mpr ⟨path, hmem, ?_⟩
      rw [halone path hmem, if_neg herrors]
  · intro status hstatus'
    obtain ⟨path, hmem, rfl⟩ := List.mem_map.mp hstatus'
    rw [halone path hmem]
    by_cases herrors : hasErrors (diagnostics path) = true
    · have hany : (request.files.any fun path => hasErrors (diagnostics path)) = true :=
        List.any_eq_true.mpr ⟨path, hmem, herrors⟩
      rw [if_pos hany, if_pos herrors]
    · rw [if_neg herrors]
      omega

end Printed

end Checks

/-- A run over several files that prints its report combines the runs over each file alone. It stops
exactly when one of them stops. Otherwise its exit status is the maximum of theirs; in the text
format it prints what they print, one after the other, and in the JSON format one array with the
records of the arrays that they print. -/
theorem runLint_combines_alone (hfiles : request.files ≠ []) (houtput : request.output = none) :
    ((runLint reader fs request).Stops ↔
      ∃ path ∈ request.files, (runLint reader fs (request.alone path)).Stops) ∧
    (¬(runLint reader fs request).Stops →
      (request.files.map fun path => (runLint reader fs (request.alone path)).status).max? =
        some (runLint reader fs request).status ∧
      ∃ config, Config.load fs request.config fs.workingPath = .ok config ∧
        (config.format = "text" ∨ config.format = "json") ∧
        (config.format = "text" →
          (runLint reader fs request).output = String.join
            (request.files.map fun path => (runLint reader fs (request.alone path)).output)) ∧
        (config.format = "json" → ∃ records : Path → List Report.Record,
          (∀ path ∈ request.files,
            (∃ ds, (Linter.standard config).lintFile reader fs path = .ok ds ∧
              records path = Report.recordsOf path ds) ∧
            Str.ofString (runLint reader fs (request.alone path)).output =
              Report.recordsText (records path) ++ Str.ofString "\n") ∧
          Str.ofString (runLint reader fs request).output =
            Report.recordsText (request.files.flatMap records) ++ Str.ofString "\n")) := by
  have houtput' (path : Path) : (request.alone path).output = none := houtput
  have hstops (path : Path) : (runLint reader fs (request.alone path)).Stops ↔
      ¬∃ config diagnostics, Checks reader fs (request.alone path) config diagnostics :=
    stops_iff_not_checks (houtput' path) (List.cons_ne_nil path [])
  constructor
  · rw [stops_iff_not_checks houtput hfiles]
    constructor
    · intro hnot
      by_contra hnone
      refine hnot (exists_checks_of_alone hfiles fun path hmem => ?_)
      by_contra halone
      exact hnone ⟨path, hmem, (hstops path).mpr halone⟩
    · rintro ⟨path, hmem, halone⟩ ⟨config, diagnostics, h⟩
      exact (hstops path).mp halone ⟨config, diagnostics, h.alone hmem⟩
  · intro hnot
    rw [stops_iff_not_checks houtput hfiles, not_not] at hnot
    obtain ⟨config, diagnostics, h⟩ := hnot
    refine ⟨h.max?_status houtput hfiles, config, h.loads, h.format, fun htext => ?_,
      fun hjson => ?_⟩
    · refine Str.ofString_injective ?_
      rw [h.output_text houtput htext, Str.ofString_join, List.flatMap_map]
      refine List.flatMap_congr fun path hmem => ?_
      have halone := (h.alone hmem).output_text (houtput' path) htext
      rw [halone]
      simp
    · refine ⟨fun path => Report.recordsOf path (diagnostics path), fun path hmem => ?_,
        h.output_json houtput hjson⟩
      have halone := (h.alone hmem).output_json (houtput' path) hjson
      refine ⟨⟨diagnostics path, h.lints path hmem, rfl⟩, ?_⟩
      rw [halone]
      simp

/-- The line of the heading with a banned phrase. -/
def bannedPhraseLine : String :=
  "b.md:1: Banned phrase identified. [banned-phrases] [error]"

/-- The report about the heading with a banned phrase is its line. -/
theorem render_bannedPhrase :
    Report.render [(.ofText "b.md", [bannedPhrase])] Config.default.format =
      .ok (Str.ofString bannedPhraseLine) := by
  have hname : (Path.ofText "b.md").name = Str.ofString "b.md" := rfl
  refine (render_first hname bannedPhrase.rule bannedPhrase.message .error).trans
    (congrArg Except.ok ?_)
  simp only [bannedPhrase, Severity.name, ← Str.ofString_append]
  rfl

/-- The diagnostics of the headings. -/
def headingDiagnostics (path : Path) : List Diagnostic :=
  if path = .ofText "a.md" then [titleCase] else [bannedPhrase]

/-- The headings are checked. -/
theorem checks_headings {files : List Path} {jobs : ℤ}
    (hfiles : ∀ path ∈ files, path = .ofText "a.md" ∨ path = .ofText "b.md") :
    Checks Markdown.commonMark headingsAndNoise ⟨files, none, none, jobs⟩ Config.default
      headingDiagnostics where
  regular := (@ready_headings files none jobs hfiles nofun).regular
  loads := rfl
  lints := by
    intro path hmem
    obtain rfl | rfl := hfiles path hmem
    · exact lintFile_a
    · exact lintFile_b
  format := .inl rfl
  encodes := by
    intro path hmem
    obtain rfl | rfl := hfiles path hmem
    · exact encodable_headings (.inl rfl) (.inl rfl)
    · exact encodable_headings (.inr rfl) (.inr rfl)

/-- Noise stops a run over the first heading, as it stops a run of its own. A run over both headings
prints the line of the one and the line of the other, and fails since the second one does. -/
theorem runLint_combines_alone_headings :
    (runLint Markdown.commonMark headingsAndNoise
      ⟨[.ofText "a.md", .ofText "c.md"], none, none, 1⟩).Stops ∧
    ¬(runLint Markdown.commonMark headingsAndNoise
      ⟨[.ofText "a.md", .ofText "b.md"], none, none, 1⟩).Stops ∧
    (runLint Markdown.commonMark headingsAndNoise
      ⟨[.ofText "a.md", .ofText "b.md"], none, none, 1⟩).status = 1 ∧
    (runLint Markdown.commonMark headingsAndNoise
      ⟨[.ofText "a.md", .ofText "b.md"], none, none, 1⟩).output =
        titleCaseLine ++ "\n" ++ bannedPhraseLine ++ "\n" := by
  have hnoise : (runLint Markdown.commonMark headingsAndNoise
      ⟨[.ofText "c.md"], none, none, 1⟩).Stops :=
    (stopped_of_not_ready (by simp) fun config hready =>
      absurd hready (Blocked.encoding List.mem_cons_self rfl rfl).not_ready).1.stops
  have ha := @checks_headings [.ofText "a.md"] 1 (by simp)
  have hb := @checks_headings [.ofText "b.md"] 1 (by simp)
  obtain ⟨hstops_a, hprinted_a, hstatus_a⟩ := ha.printed rfl render_titleCase
  obtain ⟨hstops_b, hprinted_b, hstatus_b⟩ := hb.printed rfl render_bannedPhrase
  rw [← ofString_printed] at hprinted_a hprinted_b
  obtain ⟨hmixed, _⟩ := @runLint_combines_alone Markdown.commonMark headingsAndNoise
    ⟨[.ofText "a.md", .ofText "c.md"], none, none, 1⟩ (by simp) rfl
  obtain ⟨hboth, hcombined⟩ := @runLint_combines_alone Markdown.commonMark headingsAndNoise
    ⟨[.ofText "a.md", .ofText "b.md"], none, none, 1⟩ (by simp) rfl
  have hnot : ¬(runLint Markdown.commonMark headingsAndNoise
      ⟨[.ofText "a.md", .ofText "b.md"], none, none, 1⟩).Stops := by
    rw [hboth]
    rintro ⟨path, hmem, hstops⟩
    obtain rfl | rfl : path = .ofText "a.md" ∨ path = .ofText "b.md" := by simpa using hmem
    · exact hstops_a hstops
    · exact hstops_b hstops
  obtain ⟨hmax, config, hload, _, htext, _⟩ := hcombined hnot
  obtain rfl : Config.default = config := Except.ok.inj hload
  refine ⟨hmixed.mpr ⟨.ofText "c.md", by simp, hnoise⟩, hnot, ?_, ?_⟩
  · simp only [LintRequest.alone, List.map_cons, List.map_nil, hstatus_a, hstatus_b] at hmax
    exact Option.some.inj (hmax.symm.trans (by decide))
  · rw [htext rfl]
    simp only [LintRequest.alone, List.map_cons, List.map_nil, Str.ofString_injective hprinted_a,
      Str.ofString_injective hprinted_b]
    rw [if_neg (by decide), if_neg (by decide)]
    simp [String.append_assoc]

end Command

end ProseCheck
