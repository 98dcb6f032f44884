import ProseCheck.Proofs.ConfigLoad
import ProseCheck.Proofs.JsonGrammar

/-!
# The encoding of a configuration

A text can be stored in five encodings, each with or without a byte order mark. Decoding inverts
encoding in each of them. The encoding itself shows in the first bytes of a file if the text starts
with two ASCII characters other than zero, and a text with a JSON object does. So what is loaded
from a file does not depend on how its text is stored.
-/

namespace ProseCheck.Text

/-! ### Encoding -/

/-- The bytes of a number, the lowest one first. -/
def lowBytes : (count n : ℕ) → List UInt8
  | 0, _ => []
  | count + 1, n => UInt8.ofNat n :: lowBytes count (n / 256)

/-- The bytes of a unit in the given order. -/
def unitBytes (order : ByteOrder) (count n : ℕ) : List UInt8 :=
  match order with
  | .little => lowBytes count n
  | .big => (lowBytes count n).reverse

/-- The units of two bytes for a character: one, or a pair of surrogates. -/
def utf16Units (c : Char) : List ℕ :=
  if c.toNat < 0x10000 then [c.toNat]
  else [0xD800 + (c.toNat - 0x10000) / 0x400, 0xDC00 + (c.toNat - 0x10000) % 0x400]

namespace Encoding

/-- The bytes of a character. -/
def encodeChar : Encoding → Char → List UInt8
  | .utf8, c => String.utf8EncodeChar c
  | .utf16 order, c => (utf16Units c).flatMap (unitBytes order 2)
  | .utf32 order, c => unitBytes order 4 c.toNat

/-- The bytes of a text. -/
def encode (encoding : Encoding) (s : List Char) : List UInt8 :=
  s.flatMap encoding.encodeChar

/-- The bytes of a file with a text. The byte order mark is the character U+FEFF. -/
def encodeFile (encoding : Encoding) (marked : Bool) (s : List Char) : List UInt8 :=
  encoding.encode (if marked then '\uFEFF' :: s else s)

end Encoding

/-! ### Units -/

/-- A unit has as many bytes as it is asked for. -/
theorem length_unitBytes (order : ByteOrder) (count n : ℕ) :
    (unitBytes order count n).length = count := by
  have hlow (n : ℕ) : (lowBytes count n).length = count := by
    induction count generalizing n with
    | zero => rfl
    | succ count ih => rw [lowBytes, List.length_cons, ih]
  cases order with
  | little => exact hlow n
  | big => rw [unitBytes, List.length_reverse, hlow]

/-- Bytes with the lowest one first write their number. -/
theorem foldr_lowBytes (count n : ℕ) :
    (lowBytes count n).foldr (fun b m => m * 256 + b.toNat) 0 = n % 256 ^ count := by
  induction count generalizing n with
  | zero => simp [lowBytes, Nat.mod_one]
  | succ count ih =>
    have hpow : 256 ^ (count + 1) = 256 * 256 ^ count := Nat.pow_succ'
    rw [lowBytes, List.foldr_cons, ih, UInt8.toNat_ofNat', hpow, Nat.mod_mul]
    omega

/-- The bytes of a number that is not too large write it. -/
theorem unitValue_unitBytes (order : ByteOrder) {count n : ℕ} (hn : n < 256 ^ count) :
    unitValue order (unitBytes order count n) = n := by
  have hvalue : unitValue order (unitBytes order count n) =
      (lowBytes count n).foldr (fun b m => m * 256 + b.toNat) 0 := by
    cases order <;> simp [unitValue, unitBytes, List.foldl_reverse]
  rw [hvalue, foldr_lowBytes, Nat.mod_eq_of_lt hn]

/-- A unit of two bytes. -/
theorem exists_unitBytes_two (order : ByteOrder) {n : ℕ} (hn : n < 0x10000) :
    ∃ a b, unitBytes order 2 n = [a, b] ∧ unitValue order [a, b] = n := by
  obtain ⟨a, b, hbytes⟩ := List.length_eq_two.mp (length_unitBytes order 2 n)
  exact ⟨a, b, hbytes, hbytes ▸ unitValue_unitBytes order hn⟩

/-- A unit of four bytes. -/
theorem exists_unitBytes_four (order : ByteOrder) {n : ℕ} (hn : n < 0x100000000) :
    ∃ a b c d, unitBytes order 4 n = [a, b, c, d] ∧ unitValue order [a, b, c, d] = n := by
  have hlength := length_unitBytes order 4 n
  match hbytes : unitBytes order 4 n, hlength with
  | [a, b, c, d], _ => exact ⟨a, b, c, d, rfl, hbytes ▸ unitValue_unitBytes order hn⟩

/-! ### Decoding -/

/-- The number of a character is a scalar value. -/
theorem toNat_lt_or_lt (c : Char) :
    c.toNat < 0xD800 ∨ 0xDFFF < c.toNat ∧ c.toNat < 0x110000 :=
  c.valid

/-- The number of a character is that of no surrogate. -/
theorem ofNat_toNat (c : Char) : Point.ofNat c.toNat = .scalar c := by
  have hvalid := toNat_lt_or_lt c
  rw [Point.ofNat, dif_neg (by simp only [Point.firstSurrogate]; omega), Char.ofNat_toNat]

/-- A character in units of two bytes is decoded, also one that takes two units. -/
theorem decodeUtf16_append (order : ByteOrder) (position : ℕ) (c : Char) (rest : List UInt8) :
    ∃ next, decodeUtf16 order position ((Encoding.utf16 order).encodeChar c ++ rest) =
      (decodeUtf16 order next rest).map (.scalar c :: ·) := by
  have hvalid := toNat_lt_or_lt c
  by_cases hsmall : c.toNat < 0x10000
  · obtain ⟨a, b, hbytes, hvalue⟩ := exists_unitBytes_two order hsmall
    have hhigh : isHighSurrogate c.toNat = false := by
      simp [isHighSurrogate]
      omega
    refine ⟨position + 2, ?_⟩
    rw [Encoding.encodeChar, utf16Units, if_pos hsmall, List.flatMap_singleton, hbytes]
    rw [decodeUtf16.eq_def]
    simp only [List.cons_append, List.nil_append, hvalue, hhigh, Bool.false_and,
      Bool.false_eq_true, if_false, ofNat_toNat]
    split <;> rfl
  · generalize hn : c.toNat - 0x10000 = n at *
    obtain ⟨a, b, hbytes, hvalue⟩ := exists_unitBytes_two order (n := 0xD800 + n / 0x400) (by omega)
    obtain ⟨a', b', hbytes', hvalue'⟩ :=
      exists_unitBytes_two order (n := 0xDC00 + n % 0x400) (by omega)
    refine ⟨position + 4, ?_⟩
    have hnumber : 0x10000 + (0xD800 + n / 0x400 - 0xD800) * 0x400 +
        (0xDC00 + n % 0x400 - 0xDC00) = c.toNat := by omega
    have hpair : (isHighSurrogate (0xD800 + n / 0x400) && isLowSurrogate (0xDC00 + n % 0x400)) =
        true := by
      simp [isHighSurrogate, isLowSurrogate]
      omega
    rw [Encoding.encodeChar, utf16Units, if_neg hsmall, hn, List.flatMap_cons,
      List.flatMap_singleton, hbytes, hbytes']
    simp only [List.cons_append, List.nil_append]
    rw [decodeUtf16, hvalue, hvalue', if_pos hpair, pairPoint, hnumber, Char.ofNat_toNat]

/-- A character in a unit of four bytes is decoded. -/
theorem decodeUtf32_append (order : ByteOrder) (position : ℕ) (c : Char) (rest : List UInt8) :
    ∃ next, decodeUtf32 order position ((Encoding.utf32 order).encodeChar c ++ rest) =
      (decodeUtf32 order next rest).map (.scalar c :: ·) := by
  have hvalid := toNat_lt_or_lt c
  obtain ⟨a, b, d, e, hbytes, hvalue⟩ := exists_unitBytes_four order (n := c.toNat) (by omega)
  refine ⟨position + 4, ?_⟩
  rw [Encoding.encodeChar, hbytes]
  simp only [List.cons_append, List.nil_append]
  rw [decodeUtf32, hvalue, if_neg (by omega), ofNat_toNat]

/-- A decoder that reads the bytes of one character in front of other bytes reads the characters of
a whole text. -/
theorem decode_flatMap {decode : ℕ → List UInt8 → Except EncodingFault Str}
    {encodeChar : Char → List UInt8} (hnil : ∀ position, decode position [] = .ok [])
    (happend : ∀ position c rest, ∃ next,
      decode position (encodeChar c ++ rest) = (decode next rest).map (.scalar c :: ·))
    (position : ℕ) (s : List Char) :
    decode position (s.flatMap encodeChar) = .ok (.ofChars s) := by
  induction s generalizing position with
  | nil => exact hnil position
  | cons c s ih =>
    obtain ⟨next, hnext⟩ := happend position c (s.flatMap encodeChar)
    rw [List.flatMap_cons, hnext, ih next]
    rfl

/-- Encoding is inverted by decoding. -/
theorem Encoding.decodeFrom_encode (encoding : Encoding) (position : ℕ) (s : List Char) :
    encoding.decodeFrom position (encoding.encode s) = .ok (.ofChars s) := by
  cases encoding with
  | utf8 =>
    have hencode : Encoding.utf8.encode s = Utf8.encode s := rfl
    rw [decodeFrom, hencode, decodeUtf8_encode]
    rfl
  | utf16 order =>
    exact decode_flatMap (fun _ => by rw [decodeUtf16]) (decodeUtf16_append order) position s
  | utf32 order =>
    exact decode_flatMap (fun _ => by rw [decodeUtf32]) (decodeUtf32_append order) position s

/-! ### The encoding that a file shows -/

/-- An ASCII character other than zero. -/
def IsLead (p : Point) : Prop :=
  0 < p.toNat ∧ p.toNat < 0x80

/-- The byte of such a character, which has zeros around it in units of several bytes. -/
theorem IsLead.exists_byte {c : Char} (hc : IsLead (.scalar c)) :
    ∃ b : UInt8, b ≠ 0 ∧ b < 0x80 ∧ ∀ encoding : Encoding, encoding.encodeChar c =
      match encoding with
      | .utf8 => [b]
      | .utf16 .little => [b, 0]
      | .utf16 .big => [0, b]
      | .utf32 .little => [b, 0, 0, 0]
      | .utf32 .big => [0, 0, 0, b] := by
  obtain ⟨hpos, hlt⟩ : 0 < c.toNat ∧ c.toNat < 0x80 := hc
  have hbyte : (UInt8.ofNat c.toNat).toNat = c.toNat := by
    rw [UInt8.toNat_ofNat']
    omega
  have hzero : c.toNat / 256 = 0 := by omega
  refine ⟨UInt8.ofNat c.toNat, fun heq => ?_, ?_, fun encoding => ?_⟩
  · rw [heq] at hbyte
    simp at hbyte
    omega
  · rw [UInt8.lt_iff_toNat_lt, hbyte]
    exact hlt
  · have hsmall : c.toNat < 0x10000 := by omega
    match encoding with
    | .utf8 =>
      have hshortest : Utf8.Shortest [UInt8.ofNat c.toNat] c.toNat :=
        ⟨.one (by omega) hbyte, Nat.zero_le _, c.valid⟩
      have hencode := hshortest.utf8EncodeChar_eq
      rwa [Char.ofNat_toNat] at hencode
    | .utf16 .little | .utf16 .big =>
      simp [Encoding.encodeChar, utf16Units, hsmall, unitBytes, lowBytes, hzero]
    | .utf32 .little | .utf32 .big =>
      simp [Encoding.encodeChar, unitBytes, lowBytes, hzero]

/-- The byte order mark in each encoding. -/
theorem encodeChar_mark (encoding : Encoding) :
    encoding.encodeChar '\uFEFF' =
      match encoding with
      | .utf8 => [0xEF, 0xBB, 0xBF]
      | .utf16 .little => [0xFF, 0xFE]
      | .utf16 .big => [0xFE, 0xFF]
      | .utf32 .little => [0xFF, 0xFE, 0x00, 0x00]
      | .utf32 .big => [0x00, 0x00, 0xFE, 0xFF] := by
  match encoding with
  | .utf8 | .utf16 .little | .utf16 .big | .utf32 .little | .utf32 .big => decide

/-- Without a byte order mark, the zeros among the first bytes tell the encoding. -/
theorem detectEncoding_encode (encoding : Encoding) {a b : Char} (s : List Char)
    (ha : IsLead (.scalar a)) (hb : IsLead (.scalar b)) :
    detectEncoding (encoding.encode (a :: b :: s)) = (encoding, 0) := by
  obtain ⟨x, hx, hsmall, ha⟩ := ha.exists_byte
  obtain ⟨y, hy, _, hb⟩ := hb.exists_byte
  have hne {z : UInt8} (hz : 0x80 ≤ z) : z ≠ x := by
    rintro rfl
    exact absurd hsmall (UInt8.not_lt.mpr hz)
  have hff : (0xFF : UInt8) ≠ x := hne (by decide)
  have hfe : (0xFE : UInt8) ≠ x := hne (by decide)
  have hef : (0xEF : UInt8) ≠ x := hne (by decide)
  simp only [Encoding.encode, List.flatMap_cons, ha, hb]
  generalize s.flatMap encoding.encodeChar = rest
  match encoding with
  | .utf8 =>
    rcases rest with _ | ⟨c, _ | ⟨d, rest⟩⟩ <;>
      simp [detectEncoding, hx.symm, hx, hy, hff, hfe, hef]
  | .utf16 .little | .utf16 .big | .utf32 .little | .utf32 .big =>
    simp [detectEncoding, hx.symm, hx, hy, hff, hfe, hef]

/-- A byte order mark tells the encoding. Only the mark in the little-endian UTF-32 starts like that
of another encoding, which a zero would have to follow. -/
theorem detectEncoding_marked (encoding : Encoding) {a : Char} (s : List Char)
    (ha : IsLead (.scalar a)) :
    detectEncoding (encoding.encode ('\uFEFF' :: a :: s)) =
      (encoding, (encoding.encodeChar '\uFEFF').length) := by
  obtain ⟨x, hx, _, ha⟩ := ha.exists_byte
  simp only [Encoding.encode, List.flatMap_cons, encodeChar_mark, ha]
  match encoding with
  | .utf8 | .utf16 .little | .utf16 .big | .utf32 .little | .utf32 .big =>
    simp [detectEncoding, hx.symm]

/-- A text that starts with two ASCII characters other than zero is decoded from every file that
stores it. -/
theorem decodeDetected_encodeFile (encoding : Encoding) (marked : Bool) {a b : Char} (s : List Char)
    (ha : IsLead (.scalar a)) (hb : IsLead (.scalar b)) :
    decodeDetected (encoding.encodeFile marked (a :: b :: s)) = .ok (.ofChars (a :: b :: s)) := by
  cases marked with
  | false =>
    simp only [Encoding.encodeFile, Bool.false_eq_true, if_false, decodeDetected,
      detectEncoding_encode encoding s ha hb, List.drop_zero]
    exact encoding.decodeFrom_encode _ _
  | true =>
    simp only [Encoding.encodeFile, if_true, decodeDetected,
      detectEncoding_marked encoding (b :: s) ha]
    rw [Encoding.encode, List.flatMap_cons, List.drop_left]
    exact encoding.decodeFrom_encode _ _

end ProseCheck.Text

namespace ProseCheck.Json

open Text (IsLead)

/-! ### How a text with an object starts -/

/-- White space is made of ASCII characters. -/
theorem isLead_of_isSpace {c : Point} (hc : isSpace c = true) : IsLead c := by
  simp only [isSpace, Bool.or_eq_true, beq_iff_eq] at hc
  rcases hc with ((rfl | rfl) | rfl) | rfl <;> exact ⟨by decide, by decide⟩

/-- White space in front of an ASCII character starts with one. -/
theorem exists_cons_of_skipSpace {s u : Str} {c : Point} (h : skipSpace s = c :: u)
    (hc : IsLead c) : ∃ a t, s = a :: t ∧ IsLead a ∧ (t = u ∨ skipSpace t = c :: u) := by
  cases s with
  | nil => cases h
  | cons a t =>
    by_cases hspace : isSpace a = true
    · rw [skipSpace, List.dropWhile_cons_of_pos hspace] at h
      exact ⟨a, t, rfl, isLead_of_isSpace hspace, Or.inr h⟩
    · rw [skipSpace_cons (by simpa using hspace)] at h
      obtain ⟨rfl, rfl⟩ := List.cons.inj h
      exact ⟨a, t, rfl, hc, Or.inl rfl⟩

/-- An object starts with a brace, and a brace or a quote follows it. -/
theorem Writes.exists_brace {s rest : Str} {written : List (Str × Written)}
    (h : Writes s (.value (.object written)) rest) :
    ∃ u c u', s = .scalar '\x7b' :: u ∧ skipSpace u = c :: u' ∧ IsLead c := by
  cases h with
  | emptyObject hclose => exact ⟨_, _, _, rfl, hclose, by decide, by decide⟩
  | @object u _ _ hmembers =>
    generalize hafter : skipSpace u = after at hmembers
    cases hmembers with
    | lastMember _ _ _ _ | nextMember _ _ _ _ _ =>
      exact ⟨u, _, _, rfl, hafter, by decide, by decide⟩

/-- A text with an object starts with two ASCII characters other than zero: the brace and what
follows it, or white space. -/
theorem exists_lead_of_readText {s : Str} {members : Members}
    (h : readText s = .ok (.object members)) :
    ∃ a b t, s = a :: b :: t ∧ IsLead a ∧ IsLead b := by
  obtain ⟨_, ⟨_, hwrites, _⟩, _⟩ := readText_eq_object_iff.mp h
  obtain ⟨u, c, u', hbrace, hafter, hc⟩ := hwrites.exists_brace
  obtain ⟨a, t, rfl, ha, rfl | ht⟩ := exists_cons_of_skipSpace hbrace ⟨by decide, by decide⟩
  · obtain ⟨b, t', rfl, hb, _⟩ := exists_cons_of_skipSpace hafter hc
    exact ⟨a, b, t', rfl, ha, hb⟩
  · obtain ⟨b, t', rfl, hb, _⟩ := exists_cons_of_skipSpace ht ⟨by decide, by decide⟩
    exact ⟨a, b, t', rfl, ha, hb⟩

/-- A text with an object is decoded from every file that stores it. -/
theorem decodeDetected_of_readText {s : List Char} {members : Members}
    (h : readText (.ofChars s) = .ok (.object members)) (encoding : Text.Encoding)
    (marked : Bool) : Text.decodeDetected (encoding.encodeFile marked s) = .ok (.ofChars s) := by
  obtain ⟨a, b, t, hs, ha, hb⟩ := exists_lead_of_readText h
  match s, hs with
  | c :: d :: s, hs =>
    obtain ⟨rfl, rfl, -⟩ : .scalar c = a ∧ .scalar d = b ∧ Str.ofChars s = t := by simpa using hs
    exact Text.decodeDetected_encodeFile encoding marked s ha hb

end ProseCheck.Json

namespace ProseCheck.Config

open FileSystem (Path)

variable {fs : FileSystem} {asked : Option Path} {directory path : Path}

/-- A file with an object gives what the object gives: its configuration, or the fault for which it
is none. -/
theorem Chosen.load_of_readText {bytes : List UInt8} {s : Str} {members : Json.Members}
    (h : Chosen fs asked directory path) (hfile : fs.read path = .ok bytes)
    (hdecode : Text.decodeDetected bytes = .ok s)
    (hread : Json.readText s = .ok (.object members)) :
    load fs asked directory =
      (ofJson (.object members)).mapError fun fault => .unusable path (.invalid fault) := by
  rw [h.load_eq]
  simp only [ofFile, hfile, ofBytes, hdecode, hread]

/-- What is loaded from a file with an object is the same in every encoding, with and without a byte
order mark: the configuration that the object gives, or the fault for which it is none. -/
theorem load_of_encoded {s : List Char} {members : Json.Members}
    (hread : Json.readText (.ofChars s) = .ok (.object members))
    (hchosen : Chosen fs asked directory path) (encoding : Text.Encoding) (marked : Bool)
    (hfile : fs.read path = .ok (encoding.encodeFile marked s)) :
    load fs asked directory =
      (ofJson (.object members)).mapError fun fault => .unusable path (.invalid fault) := by
  have hdecode := Json.decodeDetected_of_readText hread encoding marked
  exact hchosen.load_of_readText hfile hdecode hread

/-- A directory with nothing in it but a configuration file. -/
def onlyFile (bytes : List UInt8) : FileSystem where
  items := [([.ofString fileName], .file bytes)]
  workingDirectory := []

/-- The file of that directory is there. -/
theorem locate_onlyFile (bytes : List UInt8) :
    (onlyFile bytes).locate ((⟨"", []⟩ : Path).child fileName) = .ok [.ofString fileName] := by
  simp [FileSystem.locate, FileSystem.follow, FileSystem.item?, onlyFile, Path.child,
    Path.isAbsolute, fileName]

/-- The file of that directory can be read. -/
theorem read_onlyFile (bytes : List UInt8) :
    (onlyFile bytes).read ((⟨"", []⟩ : Path).child fileName) = .ok bytes := by
  rw [FileSystem.read, locate_onlyFile]
  simp [FileSystem.item?, onlyFile]

/-- The file of that directory is chosen. -/
theorem chosen_onlyFile (bytes : List UInt8) :
    Chosen (onlyFile bytes) none ⟨"", []⟩ ((⟨"", []⟩ : Path).child fileName) := by
  refine .found nofun ?_
  rw [FileSystem.pathExists, FileSystem.at?, locate_onlyFile]
  simp [FileSystem.item?, onlyFile]

/-- The text of a configuration with a character that takes two units in UTF-16. -/
def pairText : List Char :=
  ("\x7b\"rules\": \x7b\"headingCase\": " ++
    "\x7b\"level\": \"info\", \"message\": \"😀\"\x7d\x7d\x7d").toList

/-- What is read from that text. -/
def pairMembers : Json.Members :=
  [(.ofString "rules", .object [(.ofString "headingCase",
    .object [(.ofString "level", .string "info"), (.ofString "message", .string "😀")])])]

/-- The configuration is loaded from a file in UTF-16 without a byte order mark. -/
theorem load_of_encoded_pair :
    Json.readText (.ofChars pairText) = .ok (.object pairMembers) ∧
      load (onlyFile (Text.Encoding.encodeFile (.utf16 .little) false pairText)) none ⟨"", []⟩ =
        .ok ⟨[(.ofString "headingCase", .entry ⟨.info, "😀", []⟩)], "text"⟩ := by
  have hread : Json.readText (.ofChars pairText) = .ok (.object pairMembers) := by
    unfold pairText pairMembers
    cbv
  have hload := load_of_encoded hread (chosen_onlyFile _) (.utf16 .little) false (read_onlyFile _)
  exact ⟨hread, hload⟩

end ProseCheck.Config
