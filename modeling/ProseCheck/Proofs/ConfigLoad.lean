import ProseCheck.Config.Load
import ProseCheck.Proofs.JsonReading
import ProseCheck.Proofs.Utf8

/-!
# Loading a configuration

The configuration of a run is the built-in one if there is no file for it. What is loaded from a
file depends on nothing but the bytes of the file. A file that is there but cannot be read or holds
no configuration is a fault that names the file, with one exception: an integer of too many digits
in its text gives a fault of its own, which does not name the file. The reader has no limit for the
depth of a text; that a text nested too deep stops a run in the same way is left out.
-/

namespace ProseCheck.Text

/-- What is encoded without surrogates is decoded in one run. -/
@[simp] theorem decodeUtf8_encode (fuel position : ℕ) (s : List Char) :
    decodeUtf8 fuel position (Utf8.encode s) = .ok (.ofChars s) := by
  unfold decodeUtf8
  simp only [Utf8.decodeFrom_encode]

end ProseCheck.Text

namespace ProseCheck.Config

open FileSystem (Path)

/-- The file that a configuration is loaded from: the one that is asked for if it exists, else the
one in the directory if it exists. -/
inductive Chosen (fs : FileSystem) (asked : Option Path) (directory : Path) : Path → Prop where
  | asked {path : Path} (hasked : asked = some path) (hexists : fs.pathExists path = true) :
    Chosen fs asked directory path
  | found (hasked : ∀ path, asked = some path → fs.pathExists path = false)
      (hexists : fs.pathExists (directory.child fileName) = true) :
    Chosen fs asked directory (directory.child fileName)

variable {fs : FileSystem} {asked : Option Path} {directory path : Path}

/-- Where nothing that exists is asked for. -/
theorem filter_pathExists_eq_none_iff :
    asked.filter fs.pathExists = none ↔ ∀ path, asked = some path → fs.pathExists path = false := by
  simp [Option.filter_eq_none_iff]

/-- A configuration comes from the file that is chosen. -/
theorem origin_eq_file_iff :
    origin fs asked directory = .file path ↔ Chosen fs asked directory path := by
  constructor
  · intro h
    unfold origin at h
    split at h
    · rename_i path' hfilter
      obtain ⟨hasked, hexists⟩ := Option.filter_eq_some_iff.mp hfilter
      obtain rfl := Origin.file.inj h
      exact .asked hasked hexists
    · rename_i hfilter
      simp only at h
      split at h
      · rename_i hexists
        obtain rfl := Origin.file.inj h
        exact .found (filter_pathExists_eq_none_iff.mp hfilter) hexists
      · cases h
  · rintro (⟨hasked, hexists⟩ | ⟨hasked, hexists⟩)
    · simp [origin, hasked, Option.filter, hexists]
    · simp [origin, filter_pathExists_eq_none_iff.mpr hasked, hexists]

/-- What is loaded is what the file that is chosen gives. -/
theorem Chosen.load_eq (h : Chosen fs asked directory path) :
    load fs asked directory = ofFile fs path := by
  simp only [load, origin_eq_file_iff.mpr h]

/-! ### What a file holds -/

/-- The bytes of a file hold a configuration if they are in one of the encodings and their text is
an object with the settings of the configuration. The path of the file does not matter. -/
theorem ofBytes_eq_ok_iff {bytes : List UInt8} {c : Config} :
    ofBytes path bytes = .ok c ↔
      ∃ text members, Text.decodeDetected bytes = .ok text ∧
        Json.readText text = .ok (.object members) ∧ ofJson (.object members) = .ok c := by
  constructor
  · intro h
    unfold ofBytes at h
    split at h
    · cases h
    · rename_i text hdecode
      split at h
      · cases h
      · cases h
      · rename_i members hread
        refine ⟨text, members, hdecode, hread, ?_⟩
        cases hconfig : ofJson (.object members) with
        | ok c' => simpa [hconfig, Except.mapError] using h
        | error fault => simp [hconfig, Except.mapError] at h
      · cases h
  · rintro ⟨text, members, hdecode, hread, hconfig⟩
    simp [ofBytes, hdecode, hread, hconfig, Except.mapError]

/-- A file gives a configuration just if its bytes hold that configuration, under any path. -/
theorem ofFile_eq_ok_iff {c : Config} :
    ofFile fs path = .ok c ↔
      ∃ bytes, fs.read path = .ok bytes ∧ ∀ other, ofBytes other bytes = .ok c := by
  cases hread : fs.read path with
  | error trouble => simp [ofFile, hread]
  | ok bytes => simp [ofFile, hread, ofBytes_eq_ok_iff]

end ProseCheck.Config
