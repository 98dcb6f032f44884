import ProseCheck.Proofs.JsonRoundTrip
import ProseCheck.Proofs.TextReport

/-!
# Reading a JSON report

The report of several files in JSON is one array with an object for each record. Its texts may hold
any characters, for what JSON does not allow in a string is escaped; only where one has a surrogate
is there no report. Reading it gives the array back, and with it the records, so that different
records have different reports.
-/

namespace ProseCheck

/-- Severities are told apart by their names. -/
theorem Severity.name_injective : Function.Injective Severity.name := by
  intro severity severity' h
  cases severity <;> cases severity' <;> first | rfl | exact absurd h (by decide)

namespace Report

open FileSystem (Path)
open Json (Plain)

/-- A record whose line number can be read. -/
def Record.Bounded (r : Record) : Prop :=
  r.diagnostic.line.natAbs < 10 ^ Text.digitLimit

/-- A record whose texts can be encoded. -/
def Record.Encodable (r : Record) : Prop :=
  ∀ text ∈ r.texts, text.Encodable

/-- The object of a record has five members with names of their own. -/
theorem Record.Bounded.plain_toJson {r : Record} (hr : r.Bounded) : Plain r.toJson := by
  refine .object (by simp) fun m hm => ?_
  simp only [List.mem_cons, List.not_mem_nil, or_false] at hm
  rcases hm with rfl | rfl | rfl | rfl | rfl
  · exact .string _
  · exact .int hr
  · exact .string _
  · exact .string _
  · exact .string _

/-- A record is determined by its object. -/
theorem Record.toJson_injective : Function.Injective Record.toJson := by
  rintro ⟨file, line, rule, severity, message⟩ ⟨file', line', rule', severity', message'⟩ h
  simp only [Record.toJson, Json.Value.object.injEq, List.cons.injEq, Prod.mk.injEq, true_and,
    and_true, Json.Value.string.injEq, Json.Value.int.injEq] at h
  obtain ⟨rfl, rfl, rfl, hseverity, rfl⟩ := h
  obtain rfl := Severity.name_injective (Str.ofString_injective hseverity)
  rfl

/-- The text of records is read as the array of their objects. -/
theorem readText_recordsText {records : List Record} (hrecords : ∀ r ∈ records, r.Bounded) :
    Json.readText (recordsText records) = .ok (.array (records.map Record.toJson)) := by
  refine Json.readText_render (.array fun v hv => ?_)
  obtain ⟨r, hr, rfl⟩ := List.mem_map.mp hv
  exact (hrecords r hr).plain_toJson

/-- Records are determined by their text. -/
theorem eq_of_recordsText_eq {records records' : List Record}
    (hrecords : ∀ r ∈ records, r.Bounded) (hrecords' : ∀ r ∈ records', r.Bounded)
    (h : recordsText records = recordsText records') : records = records' := by
  have hread := readText_recordsText hrecords
  rw [h, readText_recordsText hrecords'] at hread
  have hobjects : records'.map Record.toJson = records.map Record.toJson := by
    simpa using hread
  exact (List.map_injective_iff.mpr Record.toJson_injective hobjects).symm

/-- No run of surrogates is found just if the texts of all records can be encoded. -/
theorem loneIn?_eq_none_iff {records : List Record} :
    loneIn? records = none ↔ ∀ r ∈ records, r.Encodable := by
  simp only [Record.Encodable, loneIn?, List.findSome?_eq_none_iff, List.mem_flatMap,
    Str.lone?_eq_none_iff]
  exact ⟨fun h r hr text htext => h text ⟨r, hr, htext⟩,
    fun h text ⟨r, hr, htext⟩ => h r hr text htext⟩

/-- A JSON report is the text of all records, if their texts can be encoded. -/
theorem render_json {results : List (Path × List Diagnostic)}
    (htexts : ∀ r ∈ allRecords results, r.Encodable) :
    render results "json" = .ok (recordsText (allRecords results)) := by
  have hformat : Format.ofName? "json" = some .json := by decide
  have hlone : loneIn? (allRecords results) = none := loneIn?_eq_none_iff.mpr htexts
  simp only [render, hformat]
  rw [allRecords] at hlone
  rw [hlone, allRecords]

/-- The JSON report of several files is read as the array of their diagnostics in turn, each as an
object with the name of its file and its fields in a fixed order. Records whose line numbers can be
read are determined by their report. -/
theorem readText_render_json {results : List (Path × List Diagnostic)}
    (hlines : ∀ r ∈ results, ∀ d ∈ r.2, d.line.natAbs < 10 ^ Text.digitLimit)
    (htexts : ∀ r ∈ results, ∀ d ∈ r.2,
      r.1.name.Encodable ∧ d.rule.Encodable ∧ d.message.Encodable) :
    (∃ report, render results "json" = .ok report ∧
      Json.readText report = .ok (.array (results.flatMap fun (file, ds) => ds.map fun d =>
        .object [("file", .string file.name), ("line", .int d.line), ("rule", .string d.rule),
          ("severity", .string d.severity.name), ("message", .string d.message)]))) ∧
    ∀ records records' : List Record,
      (∀ r ∈ records, r.diagnostic.line.natAbs < 10 ^ Text.digitLimit) →
      (∀ r ∈ records', r.diagnostic.line.natAbs < 10 ^ Text.digitLimit) →
      recordsText records = recordsText records' → records = records' := by
  have hbounded : ∀ r ∈ allRecords results, r.Bounded := by
    intro r hr
    obtain ⟨⟨file, ds⟩, hfile, hrecord⟩ := List.mem_flatMap.mp hr
    obtain ⟨d, hd, rfl⟩ := List.mem_map.mp hrecord
    exact hlines _ hfile d hd
  have hencodable : ∀ r ∈ allRecords results, r.Encodable := by
    intro r hr
    obtain ⟨⟨file, ds⟩, hfile, hrecord⟩ := List.mem_flatMap.mp hr
    obtain ⟨d, hd, rfl⟩ := List.mem_map.mp hrecord
    simpa [Record.Encodable, Record.texts] using htexts _ hfile d hd
  refine ⟨⟨_, render_json hencodable, ?_⟩, fun _ _ => eq_of_recordsText_eq⟩
  rw [readText_recordsText hbounded, allRecords, List.map_flatMap]
  simp only [recordsOf, List.map_map]
  rfl

/-- A file without diagnostics, and one with a message that needs every kind of escape. -/
def messageWithEscapes : List (Path × List Diagnostic) :=
  [(⟨"", ["b.md"]⟩, []), (⟨"", ["docs", "a.md"]⟩, [⟨-12, "x", .info, "\"\\\x01\n😀"⟩])]

/-- A message with a quote, a backslash, control characters and a character outside the first plane
is read back. -/
theorem readText_render_json_escapes :
    (∀ r ∈ messageWithEscapes, ∀ d ∈ r.2, d.line.natAbs < 10 ^ Text.digitLimit) ∧
    (∀ r ∈ messageWithEscapes, ∀ d ∈ r.2,
      r.1.name.Encodable ∧ d.rule.Encodable ∧ d.message.Encodable) ∧
    ∃ report, render messageWithEscapes "json" = .ok report ∧
      Json.readText report = .ok (.array [.object [("file", .string "a.md"),
        ("line", .int (-12)), ("rule", .string "x"), ("severity", .string "info"),
        ("message", .string "\"\\\x01\n😀")]]) := by
  have hlines : ∀ r ∈ messageWithEscapes, ∀ d ∈ r.2, d.line.natAbs < 10 ^ Text.digitLimit := by
    simp only [messageWithEscapes, List.forall_mem_cons, List.not_mem_nil, false_implies,
      implies_true, and_true, true_and]
    exact Text.lt_ten_pow_digitLimit (by decide)
  have htexts : ∀ r ∈ messageWithEscapes, ∀ d ∈ r.2,
      r.1.name.Encodable ∧ d.rule.Encodable ∧ d.message.Encodable := by
    simp only [messageWithEscapes, List.forall_mem_cons, List.not_mem_nil, false_implies,
      implies_true, and_true, true_and]
    exact ⟨Str.encodable_ofString _, Str.encodable_ofString _, Str.encodable_ofString _⟩
  exact ⟨hlines, htexts, (readText_render_json hlines htexts).1⟩

end Report

end ProseCheck
