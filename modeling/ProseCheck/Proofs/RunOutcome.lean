import ProseCheck.Proofs.EncodedText
import ProseCheck.Proofs.FileText

/-!
# Exit status and effects of a run

A run is ready if every condition that its stages check is met; otherwise it is blocked. A run that
is blocked fails without any effect. A run that is ready has diagnostics to report. Its exit status
tells whether there is an error among them, it changes no file but the one for the report, and the
report gets there, provided that what it writes can be encoded. Otherwise the run is broken off: it
fails whatever it found, prints nothing, and a file for a text report is left empty.
-/

namespace ProseCheck.Command

open FileSystem (Path)

variable {reader : Markdown.Reader} {fs : FileSystem} {request : LintRequest}

/-! ### What blocks a run -/

/-- A condition of a run is not met. -/
inductive Blocked (fs : FileSystem) (request : LintRequest) : Prop where
  /-- A file is not there. -/
  | file {path : Path} (hmem : path ∈ request.files) (hfile : fs.isFile path = false)
  /-- The configuration cannot be loaded. -/
  | load {fault : Config.LoadFault}
      (hload : Config.load fs request.config fs.workingPath = .error fault)
  /-- A file cannot be read. -/
  | reading {path : Path} {trouble : FileSystem.Trouble} (hmem : path ∈ request.files)
      (hread : fs.read path = .error trouble)
  /-- A file is not in UTF-8. -/
  | encoding {path : Path} {bytes : List UInt8} {fault : Text.Utf8.Fault}
      (hmem : path ∈ request.files) (hread : fs.read path = .ok bytes)
      (hdecode : Text.Utf8.decode bytes = .error fault)
  /-- The format is unknown. -/
  | format {config : Config} (hload : Config.load fs request.config fs.workingPath = .ok config)
      (htext : config.format ≠ "text") (hjson : config.format ≠ "json")
  /-- The file for the report cannot be written. -/
  | output {path : Path} (houtput : request.output = some path) (hnot : ¬fs.Writable path)

/-- A run that is blocked is not ready. -/
theorem Blocked.not_ready (hblocked : Blocked fs request) {config : Config} :
    ¬Ready fs request config := by
  rintro ⟨hregular, hloads, hdecodes, hformat, hwritable⟩
  cases hblocked with
  | file hmem hfile => simp [hregular _ hmem] at hfile
  | load hload => simp [hload] at hloads
  | reading hmem hread =>
    obtain ⟨text, bytes, hread', _⟩ := hdecodes _ hmem
    simp [hread] at hread'
  | encoding hmem hread hdecode =>
    obtain ⟨text, bytes, hread', hdecode'⟩ := hdecodes _ hmem
    obtain rfl := Except.ok.inj (hread'.symm.trans hread)
    simp [hdecode] at hdecode'
  | format hload htext hjson =>
    obtain rfl := Except.ok.inj (hload.symm.trans hloads)
    exact hformat.elim htext hjson
  | output houtput hnot => exact hnot (hwritable _ houtput)

/-- A run that is blocked, or has a text that cannot be parsed, stops and leaves all files alone. -/
theorem stopped_of_not_ready (hfiles : request.files ≠ [])
    (hnot : ∀ config, Ready fs request config → ¬Parsable reader fs request) :
    (runLint reader fs request).Stopped ∧ (runLint reader fs request).files = fs := by
  refine stopped_of_not_reports fun config results report h => ?_
  exact hnot config (h.ready hfiles) h.parsable

/-! ### The exit status -/

/-- Some file has errors exactly when some diagnostic of the results is one. -/
theorem any_hasErrors_iff {results : List (Path × List Diagnostic)} :
    (results.any fun (_, ds) => hasErrors ds) = true ↔
      ∃ result ∈ results, ∃ d ∈ result.2, d.severity = .error := by
  simp [hasErrors]

/-- A run that delivers its report fails exactly when a diagnostic in it is an error. -/
theorem Reports.status_eq_one_iff_error {config : Config}
    {results : List (Path × List Diagnostic)} {report : String}
    (h : Reports reader fs request config results report)
    (hsend : Sendable request.output report) :
    (runLint reader fs request).status = 1 ↔
      ∃ result ∈ results, ∃ d ∈ result.2, d.severity = .error := by
  rw [(h.delivers hsend).status, ← any_hasErrors_iff]
  cases results.any fun (_, ds) => hasErrors ds with
  | false => simp
  | true => simp

/-- A run that does not fail has delivered a report. -/
theorem exists_reports_of_status (hstatus : (runLint reader fs request).status ≠ 1) :
    ∃ config results, ∃ report : String, Reports reader fs request config results report ∧
      Sendable request.output report := by
  by_contra hnot
  by_cases hreports : ∃ config results report, Reports reader fs request config results report
  · obtain ⟨config, results, report, h⟩ := hreports
    by_cases hsend : Sendable request.output report
    · obtain ⟨text, rfl⟩ := Str.encodable_iff_exists_ofString.mp hsend.report
      exact hnot ⟨config, results, text, h, hsend⟩
    · exact hstatus (h.interrupted hsend).status
  · simp only [not_exists] at hreports
    exact hstatus (stopped_of_not_reports hreports).1.status

/-- The exit status of a run is zero or one. -/
theorem status_eq_zero_or_one (reader : Markdown.Reader) (fs : FileSystem)
    (request : LintRequest) :
    (runLint reader fs request).status = 0 ∨ (runLint reader fs request).status = 1 := by
  by_cases hstatus : (runLint reader fs request).status = 1
  · exact .inr hstatus
  · obtain ⟨config, results, report, h, hsend⟩ := exists_reports_of_status hstatus
    rw [(h.delivers hsend).status]
    split <;> simp

/-- A run passes: it is ready, and no file has an error. -/
structure Passes (reader : Markdown.Reader) (fs : FileSystem) (request : LintRequest)
    (config : Config) : Prop extends Ready fs request config where
  /-- No diagnostic of a file is an error. -/
  noErrors : ∀ path ∈ request.files, ∀ ds,
    (Linter.standard config).lintFile reader fs path = .ok ds → ∀ d ∈ ds, d.severity ≠ .error

/-- What a run writes can be encoded: the texts of the records of its files, and the name of the
file for the report. -/
structure Encodes (reader : Markdown.Reader) (fs : FileSystem) (request : LintRequest)
    (config : Config) : Prop where
  records : ∀ path ∈ request.files, ∀ ds,
    (Linter.standard config).lintFile reader fs path = .ok ds →
      ∀ r ∈ Report.recordsOf path ds, r.Encodable
  name : ∀ path, request.output = some path → path.text.Encodable

/-- A run that passes and can be encoded delivers a report. -/
theorem Passes.exists_reports {config : Config} (h : Passes reader fs request config)
    (hencodes : Encodes reader fs request config) (hparses : Parsable reader fs request) :
    ∃ results, ∃ report : String, Reports reader fs request config results report ∧
      Sendable request.output report := by
  obtain ⟨results, hlints⟩ := h.toReady.exists_lints hparses
  have hrecords := (Report.forall_mem_allRecords_iff hlints).mpr hencodes.records
  obtain ⟨report, hrenders⟩ := (Report.exists_render_eq_ofString_iff h.format).mpr hrecords
  exact ⟨results, report, h.toReady.reports hlints hrenders, Str.encodable_ofString report,
    hencodes.name⟩

/-- A run over files that can be parsed passes with some configuration and can be encoded exactly
when it does not fail. -/
theorem exists_passes_iff (hfiles : request.files ≠ []) (hparses : Parsable reader fs request) :
    (∃ config, Passes reader fs request config ∧ Encodes reader fs request config) ↔
      (runLint reader fs request).status ≠ 1 := by
  constructor
  · rintro ⟨config, hpasses, hencodes⟩
    obtain ⟨results, report, h, hsend⟩ := hpasses.exists_reports hencodes hparses
    rw [Ne, h.status_eq_one_iff_error hsend]
    rintro ⟨⟨path, ds⟩, hmem, d, hd, herror⟩
    obtain ⟨hpath, hds⟩ := (Linter.mem_lintFiles_iff h.lints).mp hmem
    exact hpasses.noErrors path hpath ds hds d hd herror
  · intro hstatus
    obtain ⟨config, results, report, h, hsend⟩ := exists_reports_of_status hstatus
    rw [Ne, h.status_eq_one_iff_error hsend] at hstatus
    have hready := h.ready hfiles
    refine ⟨config, ⟨hready, fun path hpath ds hds d hd herror => hstatus ?_⟩, ?_, hsend.name⟩
    · exact ⟨(path, ds), (Linter.mem_lintFiles_iff h.lints).mpr ⟨hpath, hds⟩, d, hd, herror⟩
    · rw [← Report.forall_mem_allRecords_iff h.lints]
      exact (Report.exists_render_eq_ofString_iff hready.format).mp ⟨report, h.renders⟩

/-- The exit status of a run over files that can be parsed: zero if the run passes and what it
writes can be encoded, and one in every other case. If a report is delivered, the status is one
exactly when a diagnostic in it is an error. -/
theorem status_eq_zero_iff_passes (hfiles : request.files ≠ [])
    (hparses : Parsable reader fs request) :
    ((runLint reader fs request).status = 0 ↔
      ∃ config, Passes reader fs request config ∧ Encodes reader fs request config) ∧
    ((¬∃ config, Passes reader fs request config ∧ Encodes reader fs request config) →
      (runLint reader fs request).status = 1) ∧
    ∀ config results, ∀ report : String, Reports reader fs request config results report →
      Sendable request.output report →
      ((runLint reader fs request).status = 1 ↔
        ∃ result ∈ results, ∃ d ∈ result.2, d.severity = .error) := by
  have hpasses := exists_passes_iff hfiles hparses
  refine ⟨?_, ?_, fun _ _ _ h hsend => h.status_eq_one_iff_error hsend⟩
  · rw [hpasses]
    rcases status_eq_zero_or_one reader fs request with hzero | hone
    · simp [hzero]
    · simp [hone]
  · rw [hpasses, not_not]
    exact id

/-! ### Two headings and noise -/

/-- The elements of a source that is one heading. -/
def headingElements (text : String) : List Markdown.Element :=
  [.mk (.heading "h1") (some 0) "" [.mk .inline (some 0) text [.mk .text none text []]]]

/-- Three files in the working directory: a heading in title case, a heading with a banned phrase,
and a byte that is not UTF-8. -/
def headingsAndNoise : FileSystem where
  items := [([.ofString "w"], .directory),
    ([.ofString "w", .ofString "a.md"], .file (Text.Utf8.encode "# All Of It\n".toList)),
    ([.ofString "w", .ofString "b.md"], .file (Text.Utf8.encode "# It has been\n".toList)),
    ([.ofString "w", .ofString "c.md"], .file [0xFF])]
  workingDirectory := [.ofString "w"]

/-- What the built-in configuration says about the heading in title case. -/
def titleCase : Diagnostic := ⟨1, "heading-case", .warning, "Heading should be in sentence case."⟩

/-- What the built-in configuration says about the heading with a banned phrase. -/
def bannedPhrase : Diagnostic := ⟨1, "banned-phrases", .error, "Banned phrase identified."⟩

/-- The first heading is what the first file holds. -/
theorem holdsText_a : headingsAndNoise.HoldsText (.ofText "a.md") "# All Of It\n" :=
  FileSystem.holdsText_iff.mpr rfl

/-- The second heading is what the second file holds. -/
theorem holdsText_b : headingsAndNoise.HoldsText (.ofText "b.md") "# It has been\n" :=
  FileSystem.holdsText_iff.mpr rfl

/-- A text report about the first line of one file. -/
theorem render_first {path : Path} {name : String} (hname : path.name = name)
    (rule message : Str) (severity : Severity) :
    Report.render [(path, [⟨1, rule, severity, message⟩])] "text" =
      .ok (name ++ ":1: " ++ message ++ " [" ++ rule ++ "] [" ++ severity.name ++ "]") := by
  have hnumber : Str.ofString ":1: " =
      Str.ofString ":" ++ Str.ofChars (Text.writeInteger 1) ++ Str.ofString ": " :=
    rfl
  simp [Report.render_text, Report.allRecords, Report.recordsOf, Report.Record.toLine,
    Report.writeLine, hname, hnumber]

/-- A source with one heading is read as its elements. -/
theorem commonMark_heading {source text : String}
    (hblocks : Markdown.sourceBlocks source.toList =
      .ok ⟨[Markdown.textBlock (.heading "h1") 0 text], [], []⟩)
    (hinline : Markdown.inlineElements Markdown.maxNesting [] text = [.mk .text none text []]) :
    Markdown.commonMark source = .ok (headingElements text) := by
  have hread : Markdown.mapInlineAll (Markdown.inlineElements Markdown.maxNesting [])
      [Markdown.textBlock (.heading "h1") 0 text] = headingElements text := by
    simp [Markdown.textBlock, Markdown.mapInlineAll, Markdown.Element.mapInline, hinline,
      headingElements]
  simp [Markdown.commonMark, Markdown.sourceElements, hblocks, hread, Except.map, Except.mapError]

/-- The first heading is read. -/
theorem commonMark_a : Markdown.commonMark "# All Of It\n" = .ok (headingElements "All Of It") :=
  commonMark_heading rfl (by cbv)

/-- The second heading is read. -/
theorem commonMark_b :
    Markdown.commonMark "# It has been\n" = .ok (headingElements "It has been") :=
  commonMark_heading rfl (by cbv)

/-- The built-in configuration finds fault with the first heading. -/
theorem diagnostics_a : Config.default.assignments.flatMap
    (Assignment.diagnostics (Markdown.toDocument (headingElements "All Of It"))) = [titleCase] := by
  rfl

/-- The built-in configuration finds an error in the second heading. -/
theorem diagnostics_b : Config.default.assignments.flatMap
    (Assignment.diagnostics (Markdown.toDocument (headingElements "It has been"))) =
      [bannedPhrase] := by
  rfl

/-- A file with a text that is read as the given elements has the diagnostics of their document. -/
theorem lintFile_of_elements {config : Config} (hc : config.Accepted) {path : Path} {text : String}
    {elements : List Markdown.Element} (htext : fs.HoldsText path text)
    (hread : reader text = .ok elements) :
    (Linter.standard config).lintFile reader fs path = .ok (Linter.sortByLine
      (config.assignments.flatMap (Assignment.diagnostics (Markdown.toDocument elements)))) := by
  refine Linter.lintFile_eq_ok_iff.mpr ⟨text, Markdown.toDocument elements, htext, ?_,
    hc.wellformed.lint_eq _⟩
  rw [Markdown.parse, hread]
  rfl

/-- The first file has a warning. -/
theorem lintFile_a : (Linter.standard Config.default).lintFile Markdown.commonMark headingsAndNoise
    (.ofText "a.md") = .ok [titleCase] := by
  rw [lintFile_of_elements Config.accepted_default holdsText_a commonMark_a, diagnostics_a]
  simp [Linter.sortByLine]

/-- The second file has an error. -/
theorem lintFile_b : (Linter.standard Config.default).lintFile Markdown.commonMark headingsAndNoise
    (.ofText "b.md") = .ok [bannedPhrase] := by
  rw [lintFile_of_elements Config.accepted_default holdsText_b commonMark_b, diagnostics_b]
  simp [Linter.sortByLine]

/-- What is reported about the headings can be encoded. -/
theorem encodable_headings {path : Path} {d : Diagnostic}
    (hpath : path = .ofText "a.md" ∨ path = .ofText "b.md")
    (hd : d = titleCase ∨ d = bannedPhrase) :
    ∀ r ∈ Report.recordsOf path [d], r.Encodable := by
  have hname : path.name.Encodable := by
    obtain rfl | rfl := hpath
    · exact Str.encodable_ofString "a.md"
    · exact Str.encodable_ofString "b.md"
  have htexts : d.rule.Encodable ∧ d.message.Encodable := by
    obtain rfl | rfl := hd
    · exact ⟨Str.encodable_ofString _, Str.encodable_ofString _⟩
    · exact ⟨Str.encodable_ofString _, Str.encodable_ofString _⟩
  simpa [Report.recordsOf, Report.Record.Encodable, Report.Record.texts, hname] using htexts

/-- A run over the headings is ready, wherever its report goes. -/
theorem ready_headings {files : List Path} {output : Option Path} {jobs : ℤ}
    (hfiles : ∀ path ∈ files, path = .ofText "a.md" ∨ path = .ofText "b.md")
    (hwritable : ∀ path, output = some path → headingsAndNoise.Writable path) :
    Ready headingsAndNoise ⟨files, output, none, jobs⟩ Config.default where
  regular := by
    intro path hmem
    obtain rfl | rfl := hfiles path hmem
    · rfl
    · rfl
  loads := rfl
  decodes := by
    intro path hmem
    obtain rfl | rfl := hfiles path hmem
    · exact ⟨_, holdsText_a⟩
    · exact ⟨_, holdsText_b⟩
  format := .inl rfl
  writable := hwritable

/-- The headings are parsed. -/
theorem parsable_headings {files : List Path} {output : Option Path} {jobs : ℤ}
    (hfiles : ∀ path ∈ files, path = .ofText "a.md" ∨ path = .ofText "b.md") :
    Parsable Markdown.commonMark headingsAndNoise ⟨files, output, none, jobs⟩ := by
  intro path hmem text htext
  obtain rfl | rfl := hfiles path hmem
  · obtain rfl := holdsText_a.unique htext
    exact ⟨_, by rw [Markdown.parse, commonMark_a]; rfl⟩
  · obtain rfl := holdsText_b.unique htext
    exact ⟨_, by rw [Markdown.parse, commonMark_b]; rfl⟩

/-- A run over the heading in title case succeeds, for it has only a warning. With the other heading
it fails. -/
theorem status_eq_zero_iff_passes_headings :
    (runLint Markdown.commonMark headingsAndNoise
      ⟨[.ofText "a.md"], none, none, 1⟩).status = 0 ∧
    (runLint Markdown.commonMark headingsAndNoise
      ⟨[.ofText "a.md", .ofText "b.md"], none, none, 2⟩).status = 1 := by
  constructor
  · have hfiles : ∀ path ∈ [Path.ofText "a.md"], path = .ofText "a.md" ∨ path = .ofText "b.md" := by
      simp
    obtain ⟨hzero, _⟩ := status_eq_zero_iff_passes (by simp) (parsable_headings hfiles)
    refine hzero.mpr ⟨Config.default, ⟨ready_headings hfiles nofun, ?_⟩, ?_, nofun⟩
    · intro path hmem ds hds
      obtain rfl := List.mem_singleton.mp hmem
      obtain rfl := Except.ok.inj (hds.symm.trans lintFile_a)
      simp [titleCase]
    · intro path hmem ds hds
      obtain rfl := List.mem_singleton.mp hmem
      obtain rfl := Except.ok.inj (hds.symm.trans lintFile_a)
      exact encodable_headings (.inl rfl) (.inl rfl)
  · have hfiles : ∀ path ∈ [Path.ofText "a.md", Path.ofText "b.md"],
        path = .ofText "a.md" ∨ path = .ofText "b.md" := by
      simp
    obtain ⟨_, hone, _⟩ := status_eq_zero_iff_passes (by simp) (parsable_headings hfiles)
    refine hone ?_
    rintro ⟨config, hpasses, _⟩
    obtain rfl : Config.default = config := Except.ok.inj hpasses.loads
    exact hpasses.noErrors (.ofText "b.md") (by simp) _ lintFile_b bannedPhrase (by simp) rfl

/-! ### A message that cannot be encoded -/

/-- A configuration file with one rule, whose message is the escape of a surrogate. -/
def surrogateText : String :=
  "\x7b\"rules\":\x7b\"headingCase\":\x7b\"level\":\"warning\",\"message\":\"\\ud800\"\x7d\x7d\x7d"

/-- The configuration in that file. -/
def surrogateConfig : Config where
  rules := [(.ofString "headingCase", .entry ⟨.warning, [.surrogate 0], []⟩)]
  format := "text"

/-- The configuration file in the working directory, with the heading in title case and a file for
the report. -/
def surrogateMessage : FileSystem where
  items := [([.ofString "w"], .directory),
    ([.ofString "w", .ofString Config.fileName], .file (Text.Utf8.encode surrogateText.toList)),
    ([.ofString "w", .ofString "a.md"], .file (Text.Utf8.encode "# All Of It\n".toList)),
    ([.ofString "w", .ofString "r.txt"], .file (Text.Utf8.encode "old".toList))]
  workingDirectory := [.ofString "w"]

/-- The request to check the heading with the report in a file. -/
def surrogateRequest : LintRequest where
  files := [.ofText "a.md"]
  output := some (.ofText "r.txt")
  config := none
  jobs := 1

/-- What is read from that file. -/
def surrogateMembers : Json.Members :=
  [(.ofString "rules", .object [(.ofString "headingCase", .object [
    (.ofString "level", .string "warning"), (.ofString "message", .string [.surrogate 0])])])]

/-- The configuration is loaded. -/
theorem load_surrogateMessage :
    Config.load surrogateMessage none surrogateMessage.workingPath = .ok surrogateConfig := by
  have hread : Json.readText (.ofChars surrogateText.toList) = .ok (.object surrogateMembers) := by
    unfold surrogateText surrogateMembers
    cbv
  have hload : Config.load surrogateMessage none surrogateMessage.workingPath =
      Config.ofBytes (surrogateMessage.workingPath.child Config.fileName)
        (Text.Encoding.encodeFile .utf8 false surrogateText.toList) :=
    rfl
  rw [hload]
  exact Config.ofBytes_eq_ok_iff.mpr
    ⟨_, _, Json.decodeDetected_of_readText hread .utf8 false, hread, rfl⟩

/-- The heading is what the file to check holds. -/
theorem holdsText_surrogateMessage :
    surrogateMessage.HoldsText (.ofText "a.md") "# All Of It\n" :=
  FileSystem.holdsText_iff.mpr rfl

/-- The heading has a warning with that message. -/
theorem lintFiles_surrogateMessage : (Linter.standard surrogateConfig).lintFiles
    Markdown.commonMark surrogateMessage surrogateRequest.files =
      .ok [(.ofText "a.md", [⟨1, "heading-case", .warning, [.surrogate 0]⟩])] := by
  have hdiagnostics : surrogateConfig.assignments.flatMap
      (Assignment.diagnostics (Markdown.toDocument (headingElements "All Of It"))) =
        [⟨1, "heading-case", .warning, [.surrogate 0]⟩] := by
    rfl
  have hlint := lintFile_of_elements (Config.accepted_of_load load_surrogateMessage)
    holdsText_surrogateMessage commonMark_a
  rw [hdiagnostics] at hlint
  exact @Linter.lintFiles_eq_ok _ _ _ [.ofText "a.md"]
    (fun _ => [⟨1, "heading-case", .warning, [.surrogate 0]⟩])
    (by simpa [Linter.sortByLine] using hlint)

/-- A run over the heading meets all conditions. -/
theorem ready_surrogateMessage : Ready surrogateMessage surrogateRequest surrogateConfig where
  regular := by
    intro path hmem
    obtain rfl := List.mem_singleton.mp hmem
    rfl
  loads := load_surrogateMessage
  decodes := by
    intro path hmem
    obtain rfl := List.mem_singleton.mp hmem
    exact ⟨_, holdsText_surrogateMessage⟩
  format := .inl rfl
  writable := by
    rintro path ⟨⟩
    exact ⟨[.ofString "w", .ofString "r.txt"], rfl, by decide, by decide⟩

/-- The line of the warning. -/
def surrogateLine : Str :=
  Str.ofString "a.md:1: " ++ .surrogate 0 :: Str.ofString " [heading-case] [warning]"

/-- The run has a report, which is the line of the warning. -/
theorem reports_surrogateMessage : Reports Markdown.commonMark surrogateMessage surrogateRequest
    surrogateConfig [(.ofText "a.md", [⟨1, "heading-case", .warning, [.surrogate 0]⟩])]
      surrogateLine := by
  refine ready_surrogateMessage.reports lintFiles_surrogateMessage ?_
  have hname : (Path.ofText "a.md").name = Str.ofString "a.md" := rfl
  refine (render_first hname "heading-case" [.surrogate 0] .warning).trans (congrArg Except.ok ?_)
  simp only [Severity.name, surrogateLine, List.append_assoc, ← Str.ofString_append]
  rfl

/-- That line cannot be encoded. -/
theorem not_encodable_surrogateLine : ¬surrogateLine.Encodable :=
  fun h => h 0 (by simp [surrogateLine])

/-- A run that passes fails nevertheless if a message has a surrogate. -/
theorem status_of_surrogate_message :
    (∃ config, Passes Markdown.commonMark surrogateMessage surrogateRequest config) ∧
      (runLint Markdown.commonMark surrogateMessage surrogateRequest).status = 1 := by
  constructor
  · refine ⟨surrogateConfig, ready_surrogateMessage, fun path hmem ds hds d hd => ?_⟩
    have hresult := (Linter.mem_lintFiles_iff lintFiles_surrogateMessage).mpr ⟨hmem, hds⟩
    obtain ⟨rfl, rfl⟩ := Prod.mk.inj (List.mem_singleton.mp hresult)
    obtain rfl := List.mem_singleton.mp hd
    simp
  · exact (reports_surrogateMessage.interrupted
      fun hsend => not_encodable_surrogateLine hsend.report).status

/-! ### Effects -/

section Effects

variable {config : Config} {results : List (Path × List Diagnostic)}

end Effects

/-- The line of the heading in title case. -/
def titleCaseLine : String :=
  "a.md:1: Heading should be in sentence case. [heading-case] [warning]"

/-- The report about the heading in title case is its line. -/
theorem render_titleCase :
    Report.render [(.ofText "a.md", [titleCase])] Config.default.format =
      .ok (Str.ofString titleCaseLine) := by
  have hname : (Path.ofText "a.md").name = Str.ofString "a.md" := rfl
  refine (render_first hname titleCase.rule titleCase.message .warning).trans
    (congrArg Except.ok ?_)
  simp only [titleCase, Severity.name, ← Str.ofString_append]
  rfl

end ProseCheck.Command
