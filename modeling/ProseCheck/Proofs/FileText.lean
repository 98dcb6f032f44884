import ProseCheck.Proofs.LintRun
import ProseCheck.Proofs.Utf8

/-!
# The text of a file

The bytes of a file are the encoding of one text or of none. If they encode a text, reading the file
is reading that text, every character of it, and checking the file is checking the document of the
text. If they encode none, both fail, and the fault says that the file is not valid UTF-8. All this
holds with any reader of Markdown.
-/

namespace ProseCheck

open FileSystem (Path)
open Document (Source)
open Text (Utf8.encode Utf8.Malformed)

section Bytes

variable (reader : Markdown.Reader) {fs : FileSystem} {path : Path} {bytes : List UInt8}

/-- A file holds the text whose encoding its bytes are. -/
theorem FileSystem.holdsText_iff {text : String} :
    fs.HoldsText path text ↔ fs.read path = .ok (Utf8.encode text.toList) := by
  constructor
  · rintro ⟨bytes, hread, hdecode⟩
    rw [hread, Text.Utf8.decode_eq_ok_iff.mp hdecode]
  · intro hread
    exact ⟨_, hread, Text.Utf8.decode_eq_ok_iff.mpr rfl⟩

/-- A file that holds a text is read as the text is. -/
theorem Source.ofFile_eq_ofText {text : String} (htext : fs.HoldsText path text) :
    Source.ofFile reader fs path = Source.ofText reader text (some path.text) := by
  obtain ⟨bytes, hread, hdecode⟩ := htext
  simp only [Source.ofFile, hread, hdecode, String.ofList_toList]

/-- A file whose bytes encode no text is not read. -/
theorem Source.exists_ofFile_eq_undecodable (hread : fs.read path = .ok bytes)
    (hno : ∀ s, bytes ≠ Utf8.encode s) :
    ∃ fault, Source.ofFile reader fs path = .error (.undecodable path fault) := by
  obtain ⟨fault, hdecode⟩ := Text.Utf8.exists_decode_eq_error hno
  exact ⟨fault, by simp only [Source.ofFile, hread, hdecode]⟩

/-- Reading and checking a file is reading and checking its text. If the bytes of the file are the
encoding of a text, they are that of no other one; the document is read as from the text, which is
kept as it is, and the file has the diagnostics of the document. If they are the encoding of none,
which is so exactly when they are malformed somewhere, neither succeeds. -/
theorem Linter.lintFile_eq_lint_text {c : Config} (hread : fs.read path = .ok bytes)
    (hc : c.Accepted) :
    (∀ text : String, bytes = Utf8.encode text.toList →
      (∀ other : String, bytes = Utf8.encode other.toList → other = text) ∧
      Source.ofFile reader fs path = Source.ofText reader text (some path.text) ∧
      ∀ tree, Markdown.parse reader text = .ok tree →
        Source.ofFile reader fs path = .ok ⟨tree, text, some path.text⟩ ∧
        ∃ ds, (Linter.standard c).lint tree = .ok ds ∧
          (Linter.standard c).lintFile reader fs path = .ok ds) ∧
    ((∀ text : String, bytes ≠ Utf8.encode text.toList) →
      ∃ fault, Source.ofFile reader fs path = .error (.undecodable path fault) ∧
        (Linter.standard c).lintFile reader fs path = .error (.source (.undecodable path fault))) ∧
    ((∀ text : String, bytes ≠ Utf8.encode text.toList) ↔
      ∃ s rest, bytes = Utf8.encode s ++ rest ∧ Utf8.Malformed rest) := by
  have hforall : (∀ text : String, bytes ≠ Utf8.encode text.toList) ↔
      ∀ s, bytes ≠ Utf8.encode s := by
    constructor
    · intro hno s
      simpa using hno (String.ofList s)
    · intro hno text
      exact hno text.toList
  refine ⟨?_, ?_, ?_⟩
  · rintro text rfl
    have htext : fs.HoldsText path text := FileSystem.holdsText_iff.mpr hread
    have hsource := Source.ofFile_eq_ofText reader htext
    refine ⟨fun other hother => ?_, hsource, fun tree hparse => ?_⟩
    · exact String.toList_inj.mp (Text.Utf8.encode_injective hother).symm
    · have hlint := hc.wellformed.lint_eq tree
      refine ⟨?_, _, hlint, Linter.lintFile_eq_ok_iff.mpr ⟨text, tree, htext, hparse, hlint⟩⟩
      simp only [hsource, Source.ofText, hparse]
  · intro hno
    obtain ⟨fault, hfault⟩ := Source.exists_ofFile_eq_undecodable reader hread (hforall.mp hno)
    exact ⟨fault, hfault, by simp only [Linter.lintFile, hfault]⟩
  · rw [hforall, Text.Utf8.forall_ne_encode_iff]

end Bytes

/-- Two files: one starts with a byte order mark and has a carriage return and a zero, the other has
half of a pair after its first letter. -/
def markedAndHalf : FileSystem where
  items := [([.ofString "marked.md"], .file [0xEF, 0xBB, 0xBF, 0x41, 0x0D, 0x00]),
    ([.ofString "half.md"], .file [0x41, 0xED, 0xA0, 0x80])]
  workingDirectory := []

/-- The first file is read with all its characters and checked; the second one is not read. -/
theorem Linter.lintFile_eq_lint_text_marked :
    (∃ tree ds, Source.ofFile Markdown.commonMark markedAndHalf (.ofText "marked.md") =
        .ok ⟨tree, "\uFEFFA\r\x00", some "marked.md"⟩ ∧
      (Linter.standard Config.default).lint tree = .ok ds ∧
      (Linter.standard Config.default).lintFile Markdown.commonMark markedAndHalf
        (.ofText "marked.md") = .ok ds) ∧
    ∃ fault, (Linter.standard Config.default).lintFile Markdown.commonMark markedAndHalf
      (.ofText "half.md") = .error (.source (.undecodable (.ofText "half.md") fault)) := by
  obtain ⟨hmarked, _, _⟩ := @Linter.lintFile_eq_lint_text Markdown.commonMark markedAndHalf
    (.ofText "marked.md") _ _ rfl Config.accepted_default
  obtain ⟨tree, hparse⟩ : ∃ tree, Markdown.parse Markdown.commonMark "\uFEFFA\r\x00" = .ok tree :=
    ⟨_, rfl⟩
  obtain ⟨_, _, hread⟩ := hmarked "\uFEFFA\r\x00" rfl
  obtain ⟨hsource, ds, hds, hfile⟩ := hread tree hparse
  obtain ⟨_, hhalf, hmalformed⟩ := @Linter.lintFile_eq_lint_text Markdown.commonMark markedAndHalf
    (.ofText "half.md") _ _ rfl Config.accepted_default
  have hsurrogate : Utf8.Malformed [0xED, 0xA0, 0x80] :=
    .surrogate (s := []) (.three (by decide) (by decide) rfl rfl rfl) (by decide) (by decide)
  obtain ⟨fault, _, hfault⟩ := hhalf (hmalformed.mpr ⟨['A'], _, rfl, hsurrogate⟩)
  exact ⟨⟨tree, ds, hsource, hds, hfile⟩, fault, hfault⟩

end ProseCheck
