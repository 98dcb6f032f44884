import ProseCheck.Command.Run
import ProseCheck.Proofs.ConfigLoad
import ProseCheck.Proofs.EncodableReport
import ProseCheck.Proofs.FileWrite
import ProseCheck.Proofs.Linting

/-!
# The stages of a run over files

A run looks for its files, loads a configuration, checks the files one after the other, renders the
report and delivers it. It comes to its report if every stage before the delivery succeeds;
otherwise it stops, and a run that stops fails and prints nothing. What the files need is to be
there, to hold UTF-8 and to be parsed by the reader of Markdown, which may be any. The delivery
succeeds if there is a place for the report and it can be encoded. It is only there that a run which
stops leaves a trace: the file for the report is emptied before the report is encoded.
-/

namespace ProseCheck

open FileSystem (Path)
open Document (Source)

/-! ### Loading a configuration -/

namespace Config

/-- A configuration that is loaded is accepted, from wherever it comes. -/
theorem accepted_of_load {fs : FileSystem} {asked : Option Path} {directory : Path} {c : Config}
    (hc : load fs asked directory = .ok c) : c.Accepted := by
  unfold load at hc
  cases horigin : origin fs asked directory with
  | builtIn =>
    obtain rfl : default = c := by simpa [horigin] using hc
    exact accepted_default
  | file path =>
    simp only [horigin] at hc
    obtain ⟨bytes, _, hbytes⟩ := ofFile_eq_ok_iff.mp hc
    obtain ⟨text, members, _, _, hjson⟩ := ofBytes_eq_ok_iff.mp (hbytes path)
    exact .read hjson

end Config

/-! ### Checking files -/

/-- The file at the end of a path holds a text in UTF-8. -/
def FileSystem.HoldsText (fs : FileSystem) (path : Path) (text : String) : Prop :=
  ∃ bytes, fs.read path = .ok bytes ∧ Text.Utf8.decode bytes = .ok text.toList

/-- A file holds one text. -/
theorem FileSystem.HoldsText.unique {fs : FileSystem} {path : Path} {text text' : String}
    (h : fs.HoldsText path text) (h' : fs.HoldsText path text') : text = text' := by
  obtain ⟨bytes, hread, hdecode⟩ := h
  obtain ⟨bytes', hread', hdecode'⟩ := h'
  obtain rfl := Except.ok.inj (hread.symm.trans hread')
  exact String.toList_inj.mp (Except.ok.inj (hdecode.symm.trans hdecode'))

/-- A document is read from a file that holds a text which can be parsed. -/
theorem Source.exists_ofFile_iff {reader : Markdown.Reader} {fs : FileSystem} {path : Path}
    {tree : Document.Node} :
    (∃ source, Source.ofFile reader fs path = .ok source ∧ source.tree = tree) ↔
      ∃ text, fs.HoldsText path text ∧ Markdown.parse reader text = .ok tree := by
  unfold Source.ofFile FileSystem.HoldsText
  cases fs.read path with
  | error trouble => simp
  | ok bytes =>
    cases hdecode : Text.Utf8.decode bytes with
    | error fault => simp [hdecode]
    | ok chars =>
      have htext (text : String) : chars = text.toList ↔ String.ofList chars = text := by
        constructor
        · rintro rfl
          exact String.ofList_toList
        · rintro rfl
          exact String.toList_ofList.symm
      simp only [hdecode, Source.ofText, Except.ok.injEq, exists_eq_left', htext]
      cases Markdown.parse reader (String.ofList chars) with
      | error fault => simp
      | ok tree' => simp

namespace Linter

variable {linter : Linter} {reader : Markdown.Reader} {fs : FileSystem}

/-- A file is checked when its text is parsed and the document is linted. -/
theorem lintFile_eq_ok_iff {path : Path} {ds : List Diagnostic} :
    linter.lintFile reader fs path = .ok ds ↔
      ∃ text tree, fs.HoldsText path text ∧ Markdown.parse reader text = .ok tree ∧
        linter.lint tree = .ok ds := by
  have hsource : linter.lintFile reader fs path = .ok ds ↔
      ∃ tree, (∃ source, Source.ofFile reader fs path = .ok source ∧ source.tree = tree) ∧
        linter.lint tree = .ok ds := by
    unfold lintFile
    cases Source.ofFile reader fs path with
    | error fault => simp
    | ok source => simp
  rw [hsource]
  simp only [Source.exists_ofFile_iff]
  constructor
  · rintro ⟨tree, ⟨text, htext, hparse⟩, hlint⟩
    exact ⟨text, tree, htext, hparse, hlint⟩
  · rintro ⟨text, tree, htext, hparse, hlint⟩
    exact ⟨tree, ⟨text, htext, hparse⟩, hlint⟩

/-- With an accepted configuration every file whose text is parsed is checked. -/
theorem exists_lintFile_of_parse {c : Config} (hc : c.Accepted) {path : Path} {text : String}
    {tree : Document.Node} (htext : fs.HoldsText path text)
    (hparse : Markdown.parse reader text = .ok tree) :
    ∃ ds, (Linter.standard c).lintFile reader fs path = .ok ds :=
  ⟨_, lintFile_eq_ok_iff.mpr ⟨text, tree, htext, hparse, hc.wellformed.lint_eq tree⟩⟩

/-- A run over a list succeeds when it gives each element its result. -/
private theorem mapM_eq_ok_iff_forall₂ {α β ε : Type} {f : α → Except ε β} {l : List α}
    {out : List β} : l.mapM f = .ok out ↔ List.Forall₂ (fun a b => f a = .ok b) l out := by
  induction l generalizing out with
  | nil => simp [pure, Except.pure, eq_comm]
  | cons a l ih =>
    rw [List.mapM_cons, List.forall₂_cons_left_iff]
    cases f a with
    | error e => simp [bind, Except.bind]
    | ok b =>
      simp only [← ih]
      cases l.mapM f with
      | error e => simp [bind, Except.bind]
      | ok rest => simp [bind, Except.bind, pure, Except.pure, eq_comm]

/-- Files are checked together when each of them is, and the results are in their order. -/
theorem lintFiles_eq_ok_iff {paths : List Path} {results : List (Path × List Diagnostic)} :
    linter.lintFiles reader fs paths = .ok results ↔
      List.Forall₂ (fun path result =>
        linter.lintFile reader fs path = .ok result.2 ∧ result.1 = path) paths results := by
  have hfile (path : Path) (result : Path × List Diagnostic) :
      ((linter.lintFile reader fs path).map fun diagnostics => (path, diagnostics)) = .ok result ↔
        linter.lintFile reader fs path = .ok result.2 ∧ result.1 = path := by
    obtain ⟨path', ds⟩ := result
    cases linter.lintFile reader fs path with
    | error fault => simp [Except.map]
    | ok ds' => simp [Except.map, and_comm, eq_comm]
  simp only [lintFiles, mapM_eq_ok_iff_forall₂, hfile]

/-- Files whose diagnostics are known are checked together with these diagnostics. -/
theorem lintFiles_eq_ok {paths : List Path} {diagnostics : Path → List Diagnostic}
    (hds : ∀ path ∈ paths, linter.lintFile reader fs path = .ok (diagnostics path)) :
    linter.lintFiles reader fs paths = .ok (paths.map fun path => (path, diagnostics path)) := by
  rw [lintFiles_eq_ok_iff, List.forall₂_map_right_iff, List.forall₂_same]
  exact fun path hmem => ⟨hds path hmem, rfl⟩

/-- Checking at least one file gives at least one result. -/
theorem lintFiles_ne_nil {paths : List Path} {results : List (Path × List Diagnostic)}
    (hlints : linter.lintFiles reader fs paths = .ok results) (hpaths : paths ≠ []) :
    results ≠ [] := by
  rintro rfl
  exact hpaths (List.forall₂_nil_right_iff.mp (lintFiles_eq_ok_iff.mp hlints))

/-- The results are those of the files, each as if the file were checked alone. -/
theorem mem_lintFiles_iff {paths : List Path} {results : List (Path × List Diagnostic)}
    (hlints : linter.lintFiles reader fs paths = .ok results) {path : Path} {ds : List Diagnostic} :
    (path, ds) ∈ results ↔ path ∈ paths ∧ linter.lintFile reader fs path = .ok ds := by
  have hresults := lintFiles_eq_ok_iff.mp hlints
  clear hlints
  induction hresults with
  | nil => simp
  | @cons first result paths results hfirst _ ih =>
    obtain ⟨hds, rfl⟩ := hfirst
    rw [List.mem_cons, List.mem_cons, or_and_right]
    refine or_congr ?_ ih
    constructor
    · rintro rfl
      exact ⟨rfl, hds⟩
    · rintro ⟨rfl, hds'⟩
      rw [Except.ok.inj (hds'.symm.trans hds)]

/-- Files are checked together exactly when each of them is. -/
theorem exists_lintFiles_iff {paths : List Path} :
    (∃ results, linter.lintFiles reader fs paths = .ok results) ↔
      ∀ path ∈ paths, ∃ ds, linter.lintFile reader fs path = .ok ds := by
  simp only [lintFiles_eq_ok_iff]
  induction paths with
  | nil => simp
  | cons path paths ih =>
    simp only [List.forall₂_cons_left_iff, List.forall_mem_cons]
    rw [← ih]
    constructor
    · rintro ⟨_, result, rest, ⟨hds, _⟩, hrest, _⟩
      exact ⟨⟨result.2, hds⟩, rest, hrest⟩
    · rintro ⟨⟨ds, hds⟩, rest, hrest⟩
      exact ⟨_, (path, ds), rest, ⟨hds, rfl⟩, hrest, rfl⟩

end Linter

/-! ### Rendering -/

namespace Report

/-- Only in the two formats are the diagnostics of at least one file rendered. -/
theorem format_of_render {results : List (Path × List Diagnostic)} {format report : Str}
    (hresults : results ≠ []) (hrender : render results format = .ok report) :
    format = "text" ∨ format = "json" := by
  by_contra hformat
  obtain ⟨htext, hjson⟩ := not_or.mp hformat
  simp [render, Format.ofName?, htext, hjson, hresults] at hrender

/-- The records of checked files are those of each file. -/
theorem forall_mem_allRecords_iff {linter : Linter} {reader : Markdown.Reader} {fs : FileSystem}
    {paths : List Path} {results : List (Path × List Diagnostic)}
    (hlints : linter.lintFiles reader fs paths = .ok results) {property : Record → Prop} :
    (∀ r ∈ allRecords results, property r) ↔ ∀ path ∈ paths, ∀ ds,
      linter.lintFile reader fs path = .ok ds → ∀ r ∈ recordsOf path ds, property r := by
  constructor
  · intro h path hmem ds hds r hr
    exact h r (List.mem_flatMap.mpr
      ⟨(path, ds), (Linter.mem_lintFiles_iff hlints).mpr ⟨hmem, hds⟩, hr⟩)
  · intro h r hr
    obtain ⟨⟨path, ds⟩, hresult, hr⟩ := List.mem_flatMap.mp hr
    obtain ⟨hmem, hds⟩ := (Linter.mem_lintFiles_iff hlints).mp hresult
    exact h path hmem ds hds r hr

end Report

/-! ### The run -/

namespace Command

/-- A run comes to a report: every stage before the delivery succeeds. -/
structure Renders (reader : Markdown.Reader) (fs : FileSystem) (request : LintRequest)
    (config : Config) (results : List (Path × List Diagnostic)) (report : Str) : Prop where
  /-- All files are there. -/
  regular : ∀ path ∈ request.files, fs.isFile path = true
  /-- The configuration is loaded. -/
  loads : Config.load fs request.config fs.workingPath = .ok config
  /-- The files are checked. -/
  lints : (Linter.standard config).lintFiles reader fs request.files = .ok results
  /-- The report is rendered. -/
  renders : Report.render results config.format = .ok report

/-- A stage before the delivery fails. -/
inductive Fails (reader : Markdown.Reader) (fs : FileSystem) (request : LintRequest) : Prop where
  /-- A file is not there. -/
  | file {path : Path} (hmem : path ∈ request.files) (hfile : fs.isFile path = false)
  /-- The configuration cannot be loaded. -/
  | load {fault : Config.LoadFault}
      (hload : Config.load fs request.config fs.workingPath = .error fault)
  /-- A file cannot be checked. -/
  | lint {config : Config} {fault : Linter.Fault}
      (hload : Config.load fs request.config fs.workingPath = .ok config)
      (hlint : (Linter.standard config).lintFiles reader fs request.files = .error fault)
  /-- The report cannot be rendered. -/
  | render {config : Config} {results : List (Path × List Diagnostic)} {fault : Report.Fault}
      (hload : Config.load fs request.config fs.workingPath = .ok config)
      (hlint : (Linter.standard config).lintFiles reader fs request.files = .ok results)
      (hrender : Report.render results config.format = .error fault)

/-- A run ended before it had delivered a report: by an error, or by being broken off. -/
def Outcome.Stops (outcome : Outcome) : Prop :=
  outcome.error ≠ none ∨ outcome.brokenOff ≠ none

/-- The outcome of a run that stops: it fails and prints nothing. -/
structure Outcome.Stopped (outcome : Outcome) : Prop where
  stops : outcome.Stops
  status : outcome.status = 1
  output : outcome.output = ""

/-- The outcome of a run that delivers a report. -/
structure Outcome.Delivers (fs : FileSystem) (target : Option Path) (report : String)
    (failed : Bool) (outcome : Outcome) : Prop where
  completes : ¬outcome.Stops
  status : outcome.status = if failed then 1 else 0
  /-- Without a file for it, the report is printed, with a line feed unless it is empty. -/
  printed : target = none →
    outcome.files = fs ∧ outcome.output = if report = "" then "" else report ++ "\n"
  /-- The file for the report has it, and nothing else changes. -/
  written : ∀ path, target = some path →
    FileSystem.WrittenAt fs outcome.files path (Text.Utf8.encode report.toList)

/-- The outcome of a run that is broken off in the delivery of a report. -/
structure Outcome.Interrupted (fs : FileSystem) (target : Option Path) (report : Str)
    (outcome : Outcome) : Prop extends outcome.Stopped where
  /-- Without a file for the report, no file changes. -/
  printed : target = none → outcome.files = fs
  /-- The file for the report has what is left of it, and nothing else changes. -/
  written : ∀ path, target = some path →
    FileSystem.WrittenAt fs outcome.files path (bytesLeft report)

/-- A run can write its report: the report can be encoded, and also the name of the file for it. -/
structure Sendable (target : Option Path) (report : Str) : Prop where
  report : report.Encodable
  name : ∀ path, target = some path → path.text.Encodable

variable {reader : Markdown.Reader} {fs : FileSystem} {request : LintRequest}

/-- A run that an error ends stops. -/
theorem stopped_failure (log : List LogRecord) (message : Str) :
    (failure fs log message).Stopped :=
  ⟨.inl (Option.some_ne_none message), rfl, rfl⟩

/-- A run that is broken off stops. -/
theorem stopped_breakOff (log : List LogRecord) (interruption : Interruption) :
    (breakOff fs log interruption).Stopped :=
  ⟨.inr (Option.some_ne_none interruption), rfl, rfl⟩

/-- A run that comes to its end does not stop. -/
theorem not_stops_success (log : List LogRecord) (output : String) (failed : Bool) :
    ¬(success fs log output failed).Stops := by
  rintro (herror | hbroken)
  · exact herror rfl
  · exact hbroken rfl

/-- A run of which a stage fails comes to no report. -/
theorem Fails.not_renders (hfails : Fails reader fs request) {config : Config}
    {results : List (Path × List Diagnostic)} {report : Str} :
    ¬Renders reader fs request config results report := by
  rintro ⟨hregular, hloads, hlints, hrenders⟩
  cases hfails with
  | file hmem hfile => simp [hregular _ hmem] at hfile
  | load hload => simp [hload] at hloads
  | lint hload hlint =>
    rw [hload] at hloads
    obtain rfl := Except.ok.inj hloads
    simp [hlint] at hlints
  | render hload hlint hrender =>
    rw [hload] at hloads
    obtain rfl := Except.ok.inj hloads
    rw [hlint] at hlints
    obtain rfl := Except.ok.inj hlints
    simp [hrender] at hrenders

/-- A stage of a run fails and the run stops, or the run comes to a report and delivers it. -/
theorem runLint_decompose (reader : Markdown.Reader) (fs : FileSystem) (request : LintRequest) :
    (Fails reader fs request ∧ (runLint reader fs request).Stopped ∧
        (runLint reader fs request).files = fs) ∨
      ∃ config results report log, Renders reader fs request config results report ∧
        runLint reader fs request = deliver fs log request.output report
          (results.any fun (_, ds) => hasErrors ds) := by
  unfold runLint
  cases hfind : request.files.find? fun path => !fs.isFile path with
  | some path =>
    have hfile : fs.isFile path = false := by simpa using List.find?_some hfind
    exact .inl ⟨.file (List.mem_of_find?_eq_some hfind) hfile, stopped_failure _ _, rfl⟩
  | none =>
    cases hload : Config.load fs request.config fs.workingPath with
    | error fault =>
      refine .inl ⟨.load hload, ?_⟩
      cases fault with
      | unusable path reason => exact ⟨stopped_failure _ _, rfl⟩
      | tooManyDigits integer => exact ⟨stopped_breakOff _ _, rfl⟩
    | ok config =>
      cases hlint : (⟨config, .standard⟩ : Linter).lintFiles reader fs request.files with
      | error fault =>
        simp only [hlint, conclude]
        exact .inl ⟨.lint hload hlint, stopped_failure _ _, rfl⟩
      | ok results =>
        simp only [hlint, conclude]
        cases hrender : Report.render results config.format with
        | error fault =>
          refine .inl ⟨.render hload hlint hrender, ?_⟩
          cases fault with
          | unknown format => exact ⟨stopped_failure _ _, rfl⟩
          | unserializable lone => exact ⟨stopped_breakOff _ _, rfl⟩
        | ok report =>
          have hregular : ∀ path ∈ request.files, fs.isFile path = true := by simpa using hfind
          exact .inr ⟨config, results, report, _, ⟨hregular, hload, hlint, hrender⟩, rfl⟩

/-! ### The delivery -/

/-- A report that can be encoded is left as it is. -/
theorem bytesLeft_ofString (report : String) :
    bytesLeft report = Text.Utf8.encode report.toList := by
  simp [bytesLeft, Str.ofString]

/-- A report that is printed gets a line feed unless it is empty. -/
theorem ofString_printed (report : String) :
    Str.ofString (if report = "" then "" else report ++ "\n") =
      if Str.ofString report = [] then [] else Str.ofString report ++ Str.ofString "\n" := by
  have hempty : Str.ofString report = [] ↔ report = "" := by
    rw [← Str.ofString_empty, Str.ofString_inj]
  by_cases hreport : report = ""
  · simp [hreport]
  · simp [hempty, hreport]

/-- A text that can be encoded is printed. -/
theorem print_ofString (log : List LogRecord) (text : String) (failed : Bool) :
    print fs log text failed = success fs log text failed := by
  simp [print, Str.ofString]

/-- A text that cannot be encoded breaks off the run. -/
theorem exists_print_eq_breakOff {text : Str} (h : ¬text.Encodable) (log : List LogRecord)
    (failed : Bool) : ∃ interruption, print fs log text failed = breakOff fs log interruption := by
  unfold print
  cases hchars : text.chars with
  | ok chars => exact absurd (Str.encodable_iff_exists.mpr ⟨_, Str.chars_eq_ok_iff.mp hchars⟩) h
  | error lone => exact ⟨_, rfl⟩

/-- A report is not delivered where it cannot be written. -/
theorem stopped_deliver_of_not_writable {path : Path} (h : ¬fs.Writable path)
    (log : List LogRecord) (report : Str) (failed : Bool) :
    (deliver fs log (some path) report failed).Stopped ∧
      (deliver fs log (some path) report failed).files = fs := by
  cases hwrite : fs.write path (bytesLeft report) with
  | ok written => exact absurd (FileSystem.exists_write_iff_writable.mp ⟨written, hwrite⟩) h
  | error trouble =>
    simp only [deliver, hwrite]
    exact ⟨stopped_failure _ _, rfl⟩

/-- A report that can be sent is delivered where it can be written. -/
theorem delivers_of_sendable {target : Option Path} {report : String}
    (hwritable : ∀ path, target = some path → fs.Writable path) (h : Sendable target report)
    (log : List LogRecord) (failed : Bool) :
    (deliver fs log target report failed).Delivers fs target report failed := by
  cases target with
  | none =>
    simp only [deliver, ← ofString_printed, print_ofString]
    exact ⟨not_stops_success _ _ _, rfl, fun _ => ⟨rfl, rfl⟩, nofun⟩
  | some path =>
    obtain ⟨written, hwrite⟩ := FileSystem.exists_write_iff_writable.mpr (hwritable path rfl)
    have hwrite : fs.write path (bytesLeft report) = .ok written := hwrite
    obtain ⟨name, hname⟩ := Str.encodable_iff_exists_ofString.mp (h.name path rfl)
    have hlone := Str.lone?_eq_none_iff.mpr h.report
    have htext : Str.ofString "Output written to " ++ path.text ++ "\n" =
        Str.ofString ("Output written to " ++ name ++ "\n") := by
      simp [hname]
    simp only [deliver, hwrite, hlone, htext, print_ofString]
    refine ⟨not_stops_success _ _ _, rfl, nofun, ?_⟩
    rintro path' ⟨⟩
    rw [bytesLeft_ofString] at hwrite
    exact FileSystem.writtenAt_of_write hwrite

/-- A report that cannot be sent is broken off where it could be written. -/
theorem interrupted_of_not_sendable {target : Option Path} {report : Str}
    (hwritable : ∀ path, target = some path → fs.Writable path) (h : ¬Sendable target report)
    (log : List LogRecord) (failed : Bool) :
    (deliver fs log target report failed).Interrupted fs target report := by
  cases target with
  | none =>
    have hreport : ¬report.Encodable := fun hreport => h ⟨hreport, nofun⟩
    have hne : report ≠ [] := by
      rintro rfl
      exact hreport Str.encodable_nil
    have hline : ¬(report ++ Str.ofString "\n").Encodable := by simpa using hreport
    obtain ⟨interruption, hprint⟩ := @exists_print_eq_breakOff fs _ hline log failed
    simp only [deliver, if_neg hne, hprint]
    exact ⟨stopped_breakOff _ _, fun _ => rfl, nofun⟩
  | some path =>
    obtain ⟨written, hwrite⟩ := FileSystem.exists_write_iff_writable.mpr (hwritable path rfl)
    have hwrite : fs.write path (bytesLeft report) = .ok written := hwrite
    obtain ⟨interruption, hdeliver⟩ : ∃ interruption,
        deliver fs log (some path) report failed = breakOff written log interruption := by
      simp only [deliver, hwrite]
      cases hlone : report.lone? with
      | some lone => exact ⟨_, rfl⟩
      | none =>
        refine exists_print_eq_breakOff (fun hname => h ⟨Str.lone?_eq_none_iff.mp hlone, ?_⟩) log
          failed
        rintro path' ⟨⟩
        simpa using hname
    rw [hdeliver]
    refine ⟨stopped_breakOff _ _, nofun, ?_⟩
    rintro path' ⟨⟩
    exact FileSystem.writtenAt_of_write hwrite

/-! ### Runs with a report -/

/-- A run has a report to deliver, and a place for it. -/
structure Reports (reader : Markdown.Reader) (fs : FileSystem) (request : LintRequest)
    (config : Config) (results : List (Path × List Diagnostic)) (report : Str) : Prop extends
    Renders reader fs request config results report where
  /-- The file for the report, if there is one, can be written. -/
  writable : ∀ path, request.output = some path → fs.Writable path

section Reports

variable {config : Config} {results : List (Path × List Diagnostic)}

/-- What a run comes to is determined, so a run that comes to a report delivers that report. -/
theorem Renders.exists_runLint_eq {report : Str}
    (h : Renders reader fs request config results report) :
    ∃ log, runLint reader fs request = deliver fs log request.output report
      (results.any fun (_, ds) => hasErrors ds) := by
  rcases runLint_decompose reader fs request with
    ⟨hfails, _⟩ | ⟨config', results', report', log, h', heq⟩
  · exact absurd h hfails.not_renders
  · obtain rfl : config' = config := Except.ok.inj (h'.loads.symm.trans h.loads)
    obtain rfl : results' = results := Except.ok.inj (h'.lints.symm.trans h.lints)
    obtain rfl : report' = report := Except.ok.inj (h'.renders.symm.trans h.renders)
    exact ⟨log, heq⟩

/-- A report that can be sent is delivered, and the run fails if a file has an error. -/
theorem Reports.delivers {report : String} (h : Reports reader fs request config results report)
    (hsend : Sendable request.output report) :
    (runLint reader fs request).Delivers fs request.output report
      (results.any fun (_, ds) => hasErrors ds) := by
  obtain ⟨log, heq⟩ := h.toRenders.exists_runLint_eq
  rw [heq]
  exact delivers_of_sendable h.writable hsend log _

/-- A report that cannot be sent breaks off the run. -/
theorem Reports.interrupted {report : Str} (h : Reports reader fs request config results report)
    (hsend : ¬Sendable request.output report) :
    (runLint reader fs request).Interrupted fs request.output report := by
  obtain ⟨log, heq⟩ := h.toRenders.exists_runLint_eq
  rw [heq]
  exact interrupted_of_not_sendable h.writable hsend log _

end Reports

/-- A run without a report to deliver, or without a place for it, stops and leaves all files
alone. -/
theorem stopped_of_not_reports
    (hnot : ∀ config results report, ¬Reports reader fs request config results report) :
    (runLint reader fs request).Stopped ∧ (runLint reader fs request).files = fs := by
  rcases runLint_decompose reader fs request with
    ⟨_, hstopped⟩ | ⟨config, results, report, log, h, heq⟩
  · exact hstopped
  · have hwritable : ¬∀ path, request.output = some path → fs.Writable path :=
      fun hwritable => hnot config results report ⟨h, hwritable⟩
    simp only [not_forall] at hwritable
    obtain ⟨path, houtput, hpath⟩ := hwritable
    rw [heq, houtput]
    exact stopped_deliver_of_not_writable hpath log report _

/-! ### What a run depends on -/

/-- The conditions that the stages of a run check, with the configuration that is loaded. -/
structure Ready (fs : FileSystem) (request : LintRequest) (config : Config) : Prop where
  /-- All files are there. -/
  regular : ∀ path ∈ request.files, fs.isFile path = true
  /-- The configuration is loaded. -/
  loads : Config.load fs request.config fs.workingPath = .ok config
  /-- All files can be read and are in UTF-8. -/
  decodes : ∀ path ∈ request.files, ∃ text, fs.HoldsText path text
  /-- The format is known. -/
  format : config.format = "text" ∨ config.format = "json"
  /-- The file for the report, if there is one, can be written. -/
  writable : ∀ path, request.output = some path → fs.Writable path

/-- Every file that holds a text can be parsed. -/
def Parsable (reader : Markdown.Reader) (fs : FileSystem) (request : LintRequest) : Prop :=
  ∀ path ∈ request.files, ∀ text, fs.HoldsText path text →
    ∃ tree, Markdown.parse reader text = .ok tree

/-- A run with a report to deliver is ready. -/
theorem Reports.ready {config : Config} {results : List (Path × List Diagnostic)}
    {report : Str} (h : Reports reader fs request config results report)
    (hfiles : request.files ≠ []) : Ready fs request config := by
  refine ⟨h.regular, h.loads, fun path hmem => ?_, ?_, h.writable⟩
  · obtain ⟨ds, hds⟩ := Linter.exists_lintFiles_iff.mp ⟨results, h.lints⟩ path hmem
    obtain ⟨text, _, htext, _⟩ := Linter.lintFile_eq_ok_iff.mp hds
    exact ⟨text, htext⟩
  · exact Report.format_of_render (Linter.lintFiles_ne_nil h.lints hfiles) h.renders

/-- A run with a report to deliver has parsed its files. -/
theorem Reports.parsable {config : Config} {results : List (Path × List Diagnostic)}
    {report : Str} (h : Reports reader fs request config results report) :
    Parsable reader fs request := by
  intro path hmem text htext
  obtain ⟨ds, hds⟩ := Linter.exists_lintFiles_iff.mp ⟨results, h.lints⟩ path hmem
  obtain ⟨text', tree, htext', hparse, _⟩ := Linter.lintFile_eq_ok_iff.mp hds
  obtain rfl := htext'.unique htext
  exact ⟨tree, hparse⟩

/-- A run that is ready checks its files if they can be parsed. -/
theorem Ready.exists_lints {config : Config} (h : Ready fs request config)
    (hparses : Parsable reader fs request) :
    ∃ results, (Linter.standard config).lintFiles reader fs request.files = .ok results := by
  refine Linter.exists_lintFiles_iff.mpr fun path hmem => ?_
  obtain ⟨text, htext⟩ := h.decodes path hmem
  obtain ⟨tree, hparse⟩ := hparses path hmem text htext
  exact Linter.exists_lintFile_of_parse (Config.accepted_of_load h.loads) htext hparse

/-- A run that is ready delivers what is rendered of its files. -/
theorem Ready.reports {config : Config} {results : List (Path × List Diagnostic)} {report : Str}
    (h : Ready fs request config)
    (hlints : (Linter.standard config).lintFiles reader fs request.files = .ok results)
    (hrenders : Report.render results config.format = .ok report) :
    Reports reader fs request config results report :=
  ⟨⟨h.regular, h.loads, hlints, hrenders⟩, h.writable⟩

end Command

end ProseCheck
