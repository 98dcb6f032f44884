import ProseCheck.Proofs.JsonReport

/-!
# Reports that can be encoded

A report goes out as bytes, so it has to be without surrogates. In either format it is so just if
the texts of its records are: what is written around them is made of characters, and no code point
of a text is left out or changed to a character.
-/

namespace ProseCheck

/-- Texts joined by a text that can be encoded can be encoded just if each of them can be. -/
theorem Str.encodable_intercalate {sep : Str} (hsep : sep.Encodable) {texts : List Str} :
    Encodable (List.intercalate sep texts) ↔ ∀ text ∈ texts, text.Encodable := by
  induction texts with
  | nil => simp [Encodable]
  | cons text texts ih =>
    cases texts with
    | nil => simp
    | cons text' texts =>
      rw [List.intercalate_cons_cons, encodable_append, encodable_append, ih]
      simp [hsep]

namespace Json

/-- A string can be encoded in its quotes just if it can be encoded. -/
theorem encodable_writeString {s : Str} : (writeString s).Encodable ↔ s.Encodable := by
  have hescape (half : Fin 0x800) (p : Point) :
      Point.surrogate half ∈ escapePoint p ↔ p = .surrogate half := by
    cases p with
    | scalar c => simp [escapePoint]
    | surrogate other => simp [escapePoint, eq_comm]
  simp [Str.Encodable, writeString, List.mem_flatMap, hescape]

/-- The start of a line can be encoded. -/
theorem encodable_newLine (level : ℕ) : (newLine level).Encodable := by
  simp [Str.Encodable, newLine]

/-- Parts on lines of their own can be encoded if each of them can be. -/
theorem encodable_joinParts {parts : List Str} (h : ∀ part ∈ parts, part.Encodable)
    (level : ℕ) : (joinParts level parts).Encodable := by
  induction parts with
  | nil => exact Str.encodable_nil
  | cons part parts ih =>
    obtain ⟨hpart, hparts⟩ := List.forall_mem_cons.mp h
    cases parts with
    | nil => simp [joinParts, encodable_newLine, hpart]
    | cons part' parts => simp [joinParts, encodable_newLine, hpart, ih hparts]

/-- An array is written without surrogates if its items are. -/
theorem encodable_writeValue_array {items : List Value}
    (h : ∀ v ∈ items, ∀ level, (writeValue level v).Encodable) (level : ℕ) :
    (writeValue level (.array items)).Encodable := by
  cases items with
  | nil => exact Str.encodable_ofString "[]"
  | cons v items =>
    have hitems : (joinParts (level + 1) (writeItems (level + 1) (v :: items))).Encodable := by
      rw [writeItems_eq_map]
      exact encodable_joinParts (List.forall_mem_map.mpr fun v hv => h v hv _) _
    simp [writeValue_array_cons, hitems, encodable_newLine]

/-- An object is written without surrogates if its names have none and its values are written
without them. -/
theorem encodable_writeValue_object {members : Members}
    (h : ∀ m ∈ members, m.1.Encodable ∧ ∀ level, (writeValue level m.2).Encodable) (level : ℕ) :
    (writeValue level (.object members)).Encodable := by
  cases members with
  | nil => exact Str.encodable_ofString "\x7b\x7d"
  | cons m members =>
    have hmembers :
        (joinParts (level + 1) (writeMembers (level + 1) (m :: members))).Encodable := by
      rw [writeMembers_eq_map]
      refine encodable_joinParts (List.forall_mem_map.mpr fun m' hm' => ?_) _
      obtain ⟨hname, hvalue⟩ := h m' hm'
      simp [writeMember, encodable_writeString, hname, hvalue]
    simp [writeValue_object_cons, hmembers, encodable_newLine]

end Json

namespace Report

open FileSystem (Path)

/-- The line of a record can be encoded just if the texts of the record can be. -/
theorem Record.encodable_toLine {r : Record} : r.toLine.Encodable ↔ r.Encodable := by
  simp [toLine, writeLine, Record.Encodable, texts, and_comm]

/-- The object of a record is written without surrogates if its texts can be encoded. -/
theorem Record.Encodable.writeValue_toJson {r : Record} (h : r.Encodable) (level : ℕ) :
    (Json.writeValue level r.toJson).Encodable := by
  obtain ⟨hfile, hrule, hmessage⟩ :
      r.file.Encodable ∧ r.diagnostic.rule.Encodable ∧ r.diagnostic.message.Encodable := by
    simpa [Record.Encodable, texts] using h
  refine Json.encodable_writeValue_object (fun m hm => ?_) level
  simp only [List.mem_cons, List.not_mem_nil, or_false] at hm
  rcases hm with rfl | rfl | rfl | rfl | rfl <;>
    simp [Json.writeValue, Json.encodable_writeString, hfile, hrule, hmessage]

/-- Records are written without surrogates if their texts can be encoded. -/
theorem encodable_recordsText {records : List Record} (h : ∀ r ∈ records, r.Encodable) :
    (recordsText records).Encodable :=
  Json.encodable_writeValue_array
    (List.forall_mem_map.mpr fun r hr => (h r hr).writeValue_toJson) 0

/-- A text report can be encoded just if the texts of all records can be. -/
theorem encodable_text_iff {records : List Record} :
    Str.Encodable (List.intercalate "\n" (records.map Record.toLine)) ↔
      ∀ r ∈ records, r.Encodable := by
  rw [Str.encodable_intercalate (Str.encodable_ofString "\n"), List.forall_mem_map]
  simp only [Record.encodable_toLine]

/-- There is no JSON report if a text of a record cannot be encoded. -/
theorem exists_render_json_eq_error {results : List (Path × List Diagnostic)}
    (h : ¬∀ r ∈ allRecords results, r.Encodable) :
    ∃ lone, render results "json" = .error (.unserializable lone) := by
  rw [← loneIn?_eq_none_iff, ← Ne, Option.ne_none_iff_exists'] at h
  obtain ⟨lone, hlone⟩ := h
  have hformat : Format.ofName? "json" = some .json := by decide
  refine ⟨lone, ?_⟩
  simp only [render, hformat]
  rw [allRecords] at hlone
  rw [hlone]

/-- In a known format there is a report that can be encoded just if the texts of all records can
be. -/
theorem exists_render_eq_ofString_iff {results : List (Path × List Diagnostic)} {format : Str}
    (hformat : format = "text" ∨ format = "json") :
    (∃ text : String, render results format = .ok text) ↔
      ∀ r ∈ allRecords results, r.Encodable := by
  rcases hformat with rfl | rfl
  · rw [render_text, ← encodable_text_iff, Str.encodable_iff_exists_ofString]
    simp only [Except.ok.injEq]
  · constructor
    · rintro ⟨text, htext⟩
      by_contra h
      obtain ⟨lone, hlone⟩ := exists_render_json_eq_error h
      rw [hlone] at htext
      cases htext
    · intro h
      obtain ⟨text, htext⟩ := Str.encodable_iff_exists_ofString.mp (encodable_recordsText h)
      exact ⟨text, by rw [render_json h, htext]⟩

end Report

end ProseCheck
