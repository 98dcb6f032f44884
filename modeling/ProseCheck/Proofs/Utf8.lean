import ProseCheck.Text.Utf8
import Mathlib.Data.List.Basic
import Mathlib.Tactic.SplitIfs

/-!
# UTF-8 bytes and texts

A first byte tells how many continuation bytes follow, and all of them write a number. The number is
a character, and its bytes are the encoding of that character, if no shorter bytes write it and it
is a scalar value. The decoder takes exactly these bytes, so decoding is the inverse of encoding,
and where it fails some bytes are malformed in one of a few ways.
-/

namespace ProseCheck.Text.Utf8

/-! ### Bytes that write a number -/

/-- Bytes that write a number, as many as the first of them announces, be the number a character or
not. -/
inductive Form : List UInt8 → ℕ → Prop where
  | one {b : UInt8} {n : ℕ} (hb : b.toNat < 0x80) (hn : b.toNat = n) : Form [b] n
  | two {b c₁ : UInt8} {n : ℕ} (hb : 0xC0 ≤ b.toNat) (hb' : b.toNat < 0xE0)
    (h₁ : isTail c₁ = true) (hn : (b.toNat - 0xC0) * 64 + payload c₁ = n) : Form [b, c₁] n
  | three {b c₁ c₂ : UInt8} {n : ℕ} (hb : 0xE0 ≤ b.toNat) (hb' : b.toNat < 0xF0)
    (h₁ : isTail c₁ = true) (h₂ : isTail c₂ = true)
    (hn : ((b.toNat - 0xE0) * 64 + payload c₁) * 64 + payload c₂ = n) : Form [b, c₁, c₂] n
  | four {b c₁ c₂ c₃ : UInt8} {n : ℕ} (hb : 0xF0 ≤ b.toNat) (hb' : b.toNat < 0xF8)
    (h₁ : isTail c₁ = true) (h₂ : isTail c₂ = true) (h₃ : isTail c₃ = true)
    (hn : (((b.toNat - 0xF0) * 64 + payload c₁) * 64 + payload c₂) * 64 + payload c₃ = n) :
    Form [b, c₁, c₂, c₃] n

/-- The least number that takes as many bytes as given. -/
def leastNumber : (count : ℕ) → ℕ
  | 0 | 1 => 0
  | 2 => 0x80
  | 3 => 0x800
  | _ => 0x10000

/-- Bytes that write the number of a character in the shortest way. -/
structure Shortest (bytes : List UInt8) (n : ℕ) : Prop where
  form : Form bytes n
  least : leastNumber bytes.length ≤ n
  valid : n.isValidChar

/-- The later bytes of a character by their numbers. -/
theorem isTail_iff {c : UInt8} : isTail c = true ↔ 0x80 ≤ c.toNat ∧ c.toNat < 0xC0 := by
  simp only [isTail, Bool.and_eq_true, decide_eq_true_eq, UInt8.le_iff_toNat_le,
    UInt8.reduceToNat]
  omega

/-- The second byte is a continuation byte, with a narrower range after four of the first bytes. -/
theorem isSecond_iff {b c : UInt8} :
    isSecond b c = true ↔ isTail c = true ∧ (b.toNat = 0xE0 → 0xA0 ≤ c.toNat) ∧
      (b.toNat = 0xED → c.toNat < 0xA0) ∧ (b.toNat = 0xF0 → 0x90 ≤ c.toNat) ∧
      (b.toNat = 0xF4 → c.toNat < 0x90) := by
  simp only [isTail_iff, isSecond, secondRange, beq_iff_eq, ← UInt8.toNat_inj,
    UInt8.reduceToNat]
  split_ifs <;>
    simp only [Bool.and_eq_true, decide_eq_true_eq, UInt8.le_iff_toNat_le, UInt8.reduceToNat] <;>
    omega

/-- Bytes that write a character in the shortest way are its encoding. -/
theorem Shortest.utf8EncodeChar_eq {bytes : List UInt8} {n : ℕ} (h : Shortest bytes n) :
    String.utf8EncodeChar (Char.ofNat n) = bytes := by
  obtain ⟨hform, hleast, hvalid⟩ := h
  have hval : (Char.ofNat n).val.toNat = n := by
    rw [Char.ofNat, dif_pos hvalid]
    rfl
  unfold String.utf8EncodeChar
  rw [hval]
  cases hform with
  | one hb hn => rw [if_pos (by omega), ← hn, UInt8.ofNat_toNat]
  | two hb hb' h₁ hn =>
    rw [isTail_iff] at h₁
    unfold payload at hn
    change 0x80 ≤ n at hleast
    rw [if_neg (by omega), if_pos (by omega)]
    simp only [List.cons.injEq, ← UInt8.toNat_inj, UInt8.toNat_ofNat', and_true]
    omega
  | three hb hb' h₁ h₂ hn =>
    rw [isTail_iff] at h₁ h₂
    unfold payload at hn
    change 0x800 ≤ n at hleast
    rw [if_neg (by omega), if_neg (by omega), if_pos (by omega)]
    simp only [List.cons.injEq, ← UInt8.toNat_inj, UInt8.toNat_ofNat', and_true]
    omega
  | four hb hb' h₁ h₂ h₃ hn =>
    rw [isTail_iff] at h₁ h₂ h₃
    unfold payload at hn
    change 0x10000 ≤ n at hleast
    rw [if_neg (by omega), if_neg (by omega), if_neg (by omega)]
    simp only [List.cons.injEq, ← UInt8.toNat_inj, UInt8.toNat_ofNat', and_true]
    omega

/-- The encoding of a character writes it in the shortest way. -/
theorem shortest_utf8EncodeChar (c : Char) : Shortest (String.utf8EncodeChar c) c.toNat := by
  have hvalid : c.toNat.isValidChar := c.valid
  have hval : c.val.toNat = c.toNat := rfl
  unfold String.utf8EncodeChar
  rw [hval]
  generalize c.toNat = n at *
  have hbyte {m : ℕ} (hm : m < 256) : (UInt8.ofNat m).toNat = m := by
    rw [UInt8.toNat_ofNat']
    omega
  have htail (m : ℕ) : isTail (UInt8.ofNat (m % 64 + 128)) = true := by
    rw [isTail_iff, hbyte (by omega)]
    omega
  have hpayload (m : ℕ) : payload (UInt8.ofNat (m % 64 + 128)) = m % 64 := by
    have hm : (UInt8.ofNat (m % 64 + 128)).toNat = m % 64 + 128 := hbyte (by omega)
    unfold payload
    omega
  dsimp only
  split_ifs with h₁ h₂ h₃
  · refine ⟨.one ?_ ?_, Nat.zero_le n, hvalid⟩
    · rw [hbyte (by omega)]; omega
    · rw [hbyte (by omega)]
  · refine ⟨.two ?_ ?_ (htail _) ?_, ?_, hvalid⟩
    · rw [hbyte (by omega)]; omega
    · rw [hbyte (by omega)]; omega
    · rw [hbyte (by omega), hpayload]; omega
    · change 0x80 ≤ n; omega
  · refine ⟨.three ?_ ?_ (htail _) (htail _) ?_, ?_, hvalid⟩
    · rw [hbyte (by omega)]; omega
    · rw [hbyte (by omega)]; omega
    · rw [hbyte (by omega), hpayload, hpayload]; omega
    · change 0x800 ≤ n; omega
  · refine ⟨.four ?_ ?_ (htail _) (htail _) (htail _) ?_, ?_, hvalid⟩
    · rw [hbyte (by omega)]; omega
    · rw [hbyte (by omega)]; omega
    · rw [hbyte (by omega), hpayload, hpayload, hpayload]; omega
    · change 0x10000 ≤ n; omega

/-! ### Decoding -/

/-- Bytes that write a character in the shortest way are decoded as that character. -/
theorem Shortest.decodeFrom_append {bytes : List UInt8} {n : ℕ} (h : Shortest bytes n)
    (position : ℕ) (s : List UInt8) :
    decodeFrom position (bytes ++ s) =
      (decodeFrom (position + bytes.length) s).map (Char.ofNat n :: ·) := by
  obtain ⟨hform, hleast, hvalid⟩ := h
  rw [decodeFrom.eq_def]
  cases hform with
  | one hb hn =>
    simp only [List.cons_append, UInt8.lt_iff_toNat_lt, UInt8.reduceToNat]
    rw [if_pos (by omega), hn]
    rfl
  | @two b c₁ n hb hb' h₁ hn =>
    have h₁' := isTail_iff.mp h₁
    have hn' : (b.toNat - 0xC0) * 64 + (c₁.toNat - 0x80) = n := hn
    have hsecond : isSecond b c₁ = true := isSecond_iff.mpr ⟨h₁, by omega⟩
    change 0x80 ≤ n at hleast
    simp only [List.cons_append, UInt8.lt_iff_toNat_lt, UInt8.reduceToNat]
    rw [if_neg (by omega), if_neg (by omega), if_pos (by omega)]
    simp [hsecond, hn]
  | @three b c₁ c₂ n hb hb' h₁ h₂ hn =>
    have h₁' := isTail_iff.mp h₁
    have h₂' := isTail_iff.mp h₂
    have hn' : ((b.toNat - 0xE0) * 64 + (c₁.toNat - 0x80)) * 64 + (c₂.toNat - 0x80) = n := hn
    change 0x800 ≤ n at hleast
    have hsecond : isSecond b c₁ = true := isSecond_iff.mpr ⟨h₁, by omega⟩
    simp only [List.cons_append, UInt8.lt_iff_toNat_lt, UInt8.reduceToNat]
    rw [if_neg (by omega), if_neg (by omega), if_neg (by omega), if_pos (by omega)]
    simp [hsecond, h₂, hn]
  | @four b c₁ c₂ c₃ n hb hb' h₁ h₂ h₃ hn =>
    have h₁' := isTail_iff.mp h₁
    have h₂' := isTail_iff.mp h₂
    have h₃' := isTail_iff.mp h₃
    have hn' : (((b.toNat - 0xF0) * 64 + (c₁.toNat - 0x80)) * 64 + (c₂.toNat - 0x80)) * 64 +
      (c₃.toNat - 0x80) = n := hn
    change 0x10000 ≤ n at hleast
    have hsecond : isSecond b c₁ = true := isSecond_iff.mpr ⟨h₁, by omega⟩
    simp only [List.cons_append, UInt8.lt_iff_toNat_lt, UInt8.reduceToNat]
    rw [if_neg (by omega), if_neg (by omega), if_neg (by omega), if_neg (by omega),
      if_pos (by omega)]
    simp [hsecond, h₂, h₃, hn]

/-- A text is encoded character by character. -/
theorem encode_cons (c : Char) (s : List Char) :
    encode (c :: s) = String.utf8EncodeChar c ++ encode s :=
  List.flatMap_cons

/-- An encoding in front of other bytes is decoded as the text that was encoded. -/
theorem decodeFrom_encode_append (position : ℕ) (s : List Char) (rest : List UInt8) :
    decodeFrom position (encode s ++ rest) =
      (decodeFrom (position + (encode s).length) rest).map (s ++ ·) := by
  induction s generalizing position with
  | nil => cases h : decodeFrom position rest <;> simp [encode, h, Except.map]
  | cons c s ih =>
    rw [encode_cons, List.append_assoc, (shortest_utf8EncodeChar c).decodeFrom_append, ih,
      Char.ofNat_toNat, List.length_append, Nat.add_assoc]
    cases decodeFrom (position + _) rest <;> rfl

/-- An encoding is decoded as the text that was encoded. -/
theorem decodeFrom_encode (position : ℕ) (s : List Char) :
    decodeFrom position (encode s) = .ok s := by
  have happend := decodeFrom_encode_append position s []
  rwa [List.append_nil, decodeFrom, Except.map, List.append_nil] at happend

/-- A character in the shortest way, in front of bytes that are decoded as the text whose encoding
they are. -/
private theorem Shortest.append_eq_encode {bytes rest : List UInt8} {n : ℕ} {s : List Char}
    {decoded : Except Fault (List Char)} (hbytes : Shortest bytes n)
    (hrest : ∀ {t}, decoded = .ok t → rest = encode t)
    (h : decoded.map (Char.ofNat n :: ·) = .ok s) : bytes ++ rest = encode s := by
  cases decoded with
  | error fault => simp [Except.map] at h
  | ok t =>
    obtain rfl : Char.ofNat n :: t = s := by simpa [Except.map] using h
    rw [encode_cons, hbytes.utf8EncodeChar_eq, ← hrest rfl]

/-- What is decoded is the text whose encoding was given. -/
theorem eq_encode_of_decodeFrom {position : ℕ} {bytes : List UInt8} {s : List Char}
    (h : decodeFrom position bytes = .ok s) : bytes = encode s := by
  fun_induction decodeFrom position bytes generalizing s with
  | case1 =>
    obtain rfl := Except.ok.inj h
    rfl
  | case2 position b rest h80 ih =>
    simp only [UInt8.lt_iff_toNat_lt, UInt8.reduceToNat] at h80
    have hshortest : Shortest [b] b.toNat :=
      ⟨.one h80 rfl, Nat.zero_le _, Or.inl (by omega)⟩
    exact hshortest.append_eq_encode ih h
  | case6 position b h80 hC2 hE0 c₁ rest hc₁ ih =>
    simp only [UInt8.lt_iff_toNat_lt, UInt8.reduceToNat] at h80 hC2 hE0
    obtain ⟨h₁, _⟩ := isSecond_iff.mp (by simpa using hc₁)
    have h₁' := isTail_iff.mp h₁
    have hshortest : Shortest [b, c₁] ((b.toNat - 0xC0) * 64 + payload c₁) := by
      refine ⟨.two (by omega) hE0 h₁ rfl, ?_, Or.inl ?_⟩
      · change 0x80 ≤ (b.toNat - 0xC0) * 64 + (c₁.toNat - 0x80)
        omega
      · change (b.toNat - 0xC0) * 64 + (c₁.toNat - 0x80) < 0xD800
        omega
    exact hshortest.append_eq_encode ih h
  | case11 position b h80 hC2 hE0 hF0 c₁ hc₁ c₂ rest hc₂ ih =>
    simp only [UInt8.lt_iff_toNat_lt, UInt8.reduceToNat] at h80 hC2 hE0 hF0
    obtain ⟨h₁, hrange⟩ := isSecond_iff.mp (by simpa using hc₁)
    have h₁' := isTail_iff.mp h₁
    have h₂ : isTail c₂ = true := by simpa using hc₂
    have h₂' := isTail_iff.mp h₂
    have hshortest : Shortest [b, c₁, c₂]
        (((b.toNat - 0xE0) * 64 + payload c₁) * 64 + payload c₂) := by
      generalize hn : ((b.toNat - 0xE0) * 64 + payload c₁) * 64 + payload c₂ = n
      refine ⟨.three (by omega) hF0 h₁ h₂ hn, ?_, ?_⟩
      · change 0x800 ≤ n
        unfold payload at hn
        omega
      · change n < 0xD800 ∨ 0xDFFF < n ∧ n < 0x110000
        unfold payload at hn
        omega
    exact hshortest.append_eq_encode ih h
  | case18 position b h80 hC2 hE0 hF0 hF5 c₁ hc₁ c₂ hc₂ c₃ rest hc₃ ih =>
    simp only [UInt8.lt_iff_toNat_lt, UInt8.reduceToNat] at h80 hC2 hE0 hF0 hF5
    obtain ⟨h₁, hrange⟩ := isSecond_iff.mp (by simpa using hc₁)
    have h₁' := isTail_iff.mp h₁
    have h₂ : isTail c₂ = true := by simpa using hc₂
    have h₂' := isTail_iff.mp h₂
    have h₃ : isTail c₃ = true := by simpa using hc₃
    have h₃' := isTail_iff.mp h₃
    have hshortest : Shortest [b, c₁, c₂, c₃]
        ((((b.toNat - 0xF0) * 64 + payload c₁) * 64 + payload c₂) * 64 + payload c₃) := by
      generalize hn :
        (((b.toNat - 0xF0) * 64 + payload c₁) * 64 + payload c₂) * 64 + payload c₃ = n
      refine ⟨.four (by omega) (by omega) h₁ h₂ h₃ hn, ?_, ?_⟩
      · change 0x10000 ≤ n
        unfold payload at hn
        omega
      · change n < 0xD800 ∨ 0xDFFF < n ∧ n < 0x110000
        unfold payload at hn
        omega
    exact hshortest.append_eq_encode ih h
  | _ => cases h

/-- Bytes are decoded as a text exactly when they are its encoding. -/
theorem decode_eq_ok_iff {bytes : List UInt8} {s : List Char} :
    decode bytes = .ok s ↔ bytes = encode s := by
  constructor
  · exact eq_encode_of_decodeFrom
  · rintro rfl
    exact decodeFrom_encode 0 s

/-- Different texts have different encodings. -/
theorem encode_injective {s t : List Char} (h : encode s = encode t) : s = t := by
  have hs := decodeFrom_encode 0 s
  rw [h, decodeFrom_encode] at hs
  exact (Except.ok.inj hs).symm

/-- Bytes that are the encoding of no text are not decoded. -/
theorem exists_decode_eq_error {bytes : List UInt8} (h : ∀ s, bytes ≠ encode s) :
    ∃ fault, decode bytes = .error fault := by
  cases hdecode : decode bytes with
  | error fault => exact ⟨fault, rfl⟩
  | ok s => exact absurd (decode_eq_ok_iff.mp hdecode) (h s)

/-! ### Malformed bytes -/

/-- Bytes that start with something that is no character. -/
inductive Malformed : List UInt8 → Prop where
  /-- A continuation byte where a character should start. -/
  | stray {b : UInt8} {s : List UInt8} (hb : isTail b = true) : Malformed (b :: s)
  /-- A byte that announces no number of continuation bytes. -/
  | unused {b : UInt8} {s : List UInt8} (hb : 0xF8 ≤ b.toNat) : Malformed (b :: s)
  /-- Some of the bytes that write a number, with no continuation byte after them. -/
  | truncated {front back s : List UInt8} {n : ℕ} (hform : Form (front ++ back) n)
    (hfront : front ≠ []) (hback : back ≠ []) (hnext : ∀ c ∈ s.head?, isTail c = false) :
    Malformed (front ++ s)
  /-- A number that fewer bytes would write. -/
  | overlong {bytes s : List UInt8} {n : ℕ} (hform : Form bytes n)
    (hn : n < leastNumber bytes.length) : Malformed (bytes ++ s)
  /-- Half of a pair, which is no character. -/
  | surrogate {bytes s : List UInt8} {n : ℕ} (hform : Form bytes n) (hn : 0xD800 ≤ n)
    (hn' : n < 0xE000) : Malformed (bytes ++ s)
  /-- A number above the last code point. -/
  | beyond {bytes s : List UInt8} {n : ℕ} (hform : Form bytes n) (hn : 0x10FFFF < n) :
    Malformed (bytes ++ s)

/-- The number of continuation bytes that a first byte announces. -/
def tailCount (b : UInt8) : ℕ :=
  if b.toNat < 0xC0 then 0 else if b.toNat < 0xE0 then 1 else if b.toNat < 0xF0 then 2 else 3

/-- Which bytes write a number. -/
theorem exists_form_iff {b : UInt8} {tails : List UInt8} :
    (∃ n, Form (b :: tails) n) ↔
      (isTail b = false ∧ b.toNat < 0xF8) ∧ tails.length = tailCount b ∧
        ∀ c ∈ tails, isTail c = true := by
  rw [← Bool.not_eq_true, isTail_iff]
  unfold tailCount
  constructor
  · rintro ⟨n, hform⟩
    cases hform with
    | one hb => exact ⟨by omega, by rw [if_pos (by omega)]; rfl, by simp⟩
    | two hb hb' h₁ =>
      exact ⟨by omega, by rw [if_neg (by omega), if_pos hb']; rfl, by simp [h₁]⟩
    | three hb hb' h₁ h₂ =>
      exact ⟨by omega, by rw [if_neg (by omega), if_neg (by omega), if_pos hb']; rfl,
        by simp [h₁, h₂]⟩
    | four hb hb' h₁ h₂ h₃ =>
      exact ⟨by omega, by rw [if_neg (by omega), if_neg (by omega), if_neg (by omega)]; rfl,
        by simp [h₁, h₂, h₃]⟩
  · rintro ⟨hb, hlength, htails⟩
    split_ifs at hlength with hC0 hE0 hF0
    · obtain rfl := List.length_eq_zero_iff.mp hlength
      exact ⟨_, .one (by omega) rfl⟩
    · obtain ⟨c₁, rfl⟩ := List.length_eq_one_iff.mp hlength
      exact ⟨_, .two (by omega) hE0 (htails c₁ (by simp)) rfl⟩
    · obtain ⟨c₁, c₂, rfl⟩ := List.length_eq_two.mp hlength
      exact ⟨_, .three (by omega) hF0 (htails c₁ (by simp)) (htails c₂ (by simp)) rfl⟩
    · obtain ⟨c₁, c₂, c₃, rfl⟩ := List.length_eq_three.mp hlength
      exact ⟨_, .four (by omega) hb.2 (htails c₁ (by simp)) (htails c₂ (by simp))
        (htails c₃ (by simp)) rfl⟩

/-- Bytes write one number. -/
theorem Form.unique {bytes : List UInt8} {n m : ℕ} (hn : Form bytes n) (hm : Form bytes m) :
    n = m := by
  cases hn with
  | one hb hn => cases hm with | one hb' hm => exact hn.symm.trans hm
  | two hb hb' h₁ hn => cases hm with | two _ _ _ hm => exact hn.symm.trans hm
  | three hb hb' h₁ h₂ hn => cases hm with | three _ _ _ _ hm => exact hn.symm.trans hm
  | four hb hb' h₁ h₂ h₃ hn => cases hm with | four _ _ _ _ _ hm => exact hn.symm.trans hm

/-- There is a first byte. -/
theorem Form.exists_eq_cons {bytes : List UInt8} {n : ℕ} (h : Form bytes n) :
    ∃ b tails, bytes = b :: tails := by
  cases h <;> exact ⟨_, _, rfl⟩

/-- The number at the start of some bytes is at the start of them in one way. -/
theorem Form.append_inj {bytes bytes' s s' : List UInt8} {n n' : ℕ} (hform : Form bytes n)
    (hform' : Form bytes' n') (h : bytes ++ s = bytes' ++ s') : bytes = bytes' ∧ n = n' := by
  obtain ⟨b, tails, rfl⟩ := hform.exists_eq_cons
  obtain ⟨b', tails', rfl⟩ := hform'.exists_eq_cons
  obtain ⟨rfl, htails⟩ : b = b' ∧ tails ++ s = tails' ++ s' := by simpa using h
  have hlength := (exists_form_iff.mp ⟨n, hform⟩).2.1
  have hlength' := (exists_form_iff.mp ⟨n', hform'⟩).2.1
  obtain ⟨rfl, _⟩ := List.append_inj htails (hlength.trans hlength'.symm)
  exact ⟨rfl, hform.unique hform'⟩

/-- Malformed bytes start with no encoding of a character. -/
theorem Malformed.ne_append {bytes : List UInt8} (h : Malformed bytes) (c : Char)
    (rest : List UInt8) : bytes ≠ String.utf8EncodeChar c ++ rest := by
  obtain ⟨hform, hleast, hvalid⟩ := shortest_utf8EncodeChar c
  have hvalid' : c.toNat < 0xD800 ∨ 0xDFFF < c.toNat ∧ c.toNat < 0x110000 := hvalid
  intro heq
  cases h with
  | stray hb =>
    obtain ⟨b, tails, hbytes⟩ := hform.exists_eq_cons
    rw [hbytes] at hform heq
    obtain ⟨⟨hb', _⟩, _⟩ := exists_form_iff.mp ⟨_, hform⟩
    rw [List.cons_append, List.cons.injEq] at heq
    simp [← heq.1, hb] at hb'
  | unused hb =>
    obtain ⟨b, tails, hbytes⟩ := hform.exists_eq_cons
    rw [hbytes] at hform heq
    obtain ⟨⟨_, hb'⟩, _⟩ := exists_form_iff.mp ⟨_, hform⟩
    rw [List.cons_append, List.cons.injEq] at heq
    rw [← heq.1] at hb'
    omega
  | @truncated front back s n hfront hne hback hnext =>
    obtain ⟨b, tails, hbytes⟩ := hform.exists_eq_cons
    rw [hbytes] at hform heq
    obtain ⟨_, hlength, htails⟩ := exists_form_iff.mp ⟨_, hform⟩
    cases front with
    | nil => exact hne rfl
    | cons b' front =>
      obtain ⟨rfl, hcut⟩ : b' = b ∧ front ++ s = tails ++ rest := by simpa using heq
      rw [List.cons_append] at hfront
      obtain ⟨_, hlength', _⟩ := exists_form_iff.mp ⟨_, hfront⟩
      have hpos := List.length_pos_of_ne_nil hback
      rw [List.length_append] at hlength'
      -- The character has a continuation byte where the truncated bytes end.
      rcases List.append_eq_append_iff.mp hcut with ⟨missing, rfl, rfl⟩ | ⟨more, rfl, _⟩
      · cases missing with
        | nil =>
          rw [List.append_nil] at hlength
          omega
        | cons c missing => simp [htails c (by simp)] at hnext
      · rw [List.length_append] at hlength'
        omega
  | overlong hform' hn =>
    obtain ⟨rfl, rfl⟩ := hform'.append_inj hform heq
    omega
  | surrogate hform' hn hn' =>
    obtain ⟨rfl, rfl⟩ := hform'.append_inj hform heq
    omega
  | beyond hform' hn =>
    obtain ⟨rfl, rfl⟩ := hform'.append_inj hform heq
    omega

/-- There are bytes where some are malformed. -/
theorem Malformed.ne_nil {bytes : List UInt8} (h : Malformed bytes) : bytes ≠ [] := by
  cases h with
  | stray | unused => simp
  | truncated _ hfront => simp [hfront]
  | overlong hform | surrogate hform | beyond hform =>
    obtain ⟨b, tails, rfl⟩ := hform.exists_eq_cons
    simp

/-- Malformed bytes are no encoding, also not where they follow one. -/
theorem Malformed.append_ne_encode {rest : List UInt8} (h : Malformed rest) (s t : List Char) :
    encode s ++ rest ≠ encode t := by
  intro heq
  have hdecode := decodeFrom_encode 0 t
  rw [← heq, decodeFrom_encode_append] at hdecode
  cases hrest : decodeFrom (0 + (encode s).length) rest with
  | error fault => simp only [hrest, Except.map, reduceCtorEq] at hdecode
  | ok u =>
    obtain rfl := eq_encode_of_decodeFrom hrest
    cases u with
    | nil => exact h.ne_nil rfl
    | cons c u => exact h.ne_append c (encode u) (encode_cons c u)

/-- Bytes that write a number write a character in the shortest way, or are malformed. -/
theorem Form.shortest_or_malformed {bytes : List UInt8} {n : ℕ} (h : Form bytes n)
    (s : List UInt8) : Shortest bytes n ∨ Malformed (bytes ++ s) := by
  by_cases hleast : leastNumber bytes.length ≤ n
  · by_cases hlow : n < 0xD800
    · exact Or.inl ⟨h, hleast, Or.inl hlow⟩
    · by_cases hhigh : n < 0xE000
      · exact Or.inr (.surrogate h (by omega) hhigh)
      · by_cases hlast : n < 0x110000
        · exact Or.inl ⟨h, hleast, Or.inr ⟨by omega, hlast⟩⟩
        · exact Or.inr (.beyond h (by omega))
  · exact Or.inr (.overlong h (by omega))

/-- Continuation bytes at the start of some bytes: as many as asked for, or fewer because no more
follow. -/
theorem exists_tails (count : ℕ) (s : List UInt8) :
    ∃ tails rest, s = tails ++ rest ∧ (∀ c ∈ tails, isTail c = true) ∧
      (tails.length = count ∨
        tails.length < count ∧ ∀ c ∈ rest.head?, isTail c = false) := by
  induction count generalizing s with
  | zero => exact ⟨[], s, rfl, by simp, Or.inl rfl⟩
  | succ count ih =>
    cases s with
    | nil => exact ⟨[], [], rfl, by simp, Or.inr ⟨by simp, by simp⟩⟩
    | cons c s =>
      cases hc : isTail c with
      | false => exact ⟨[], c :: s, rfl, by simp, Or.inr ⟨by simp, by simp [hc]⟩⟩
      | true =>
        obtain ⟨tails, rest, rfl, htails, hlength⟩ := ih s
        refine ⟨c :: tails, rest, rfl, by simpa [hc] using htails, ?_⟩
        simpa using hlength

/-- Bytes start with a character in the shortest way, or they are malformed. -/
theorem exists_shortest_or_malformed (b : UInt8) (s : List UInt8) :
    (∃ bytes n rest, b :: s = bytes ++ rest ∧ Shortest bytes n) ∨ Malformed (b :: s) := by
  by_cases htail : isTail b = true
  · exact Or.inr (.stray htail)
  by_cases hF8 : 0xF8 ≤ b.toNat
  · exact Or.inr (.unused hF8)
  have hb : isTail b = false ∧ b.toNat < 0xF8 := ⟨by simpa using htail, by omega⟩
  obtain ⟨tails, rest, rfl, htails, hlength | ⟨hlength, hnext⟩⟩ := exists_tails (tailCount b) s
  · obtain ⟨n, hform⟩ := exists_form_iff.mpr ⟨hb, hlength, htails⟩
    rcases hform.shortest_or_malformed rest with hshortest | hmalformed
    · exact Or.inl ⟨b :: tails, n, rest, rfl, hshortest⟩
    · exact Or.inr hmalformed
  · -- Any continuation bytes complete the number, so what there is of it is truncated.
    obtain ⟨missing, hmissing⟩ := Nat.exists_eq_add_of_lt hlength
    obtain ⟨n, hform⟩ : ∃ n, Form ((b :: tails) ++ List.replicate (missing + 1) 0x80) n := by
      refine exists_form_iff.mpr ⟨hb, ?_, ?_⟩
      · simp only [List.append_eq, List.length_append, List.length_replicate]
        omega
      · intro c hc
        rcases List.mem_append.mp hc with hc | hc
        · exact htails c hc
        · rw [List.eq_of_mem_replicate hc]
          decide
    exact Or.inr (.truncated hform (by simp) (by simp) hnext)

/-- Bytes are the encoding of a text, or they are malformed after one. -/
theorem exists_encode_or_malformed (bytes : List UInt8) :
    (∃ s, bytes = encode s) ∨ ∃ s rest, bytes = encode s ++ rest ∧ Malformed rest := by
  induction hlength : bytes.length using Nat.strongRecOn generalizing bytes with
  | ind length ih =>
    cases bytes with
    | nil => exact Or.inl ⟨[], rfl⟩
    | cons b bytes =>
      rcases exists_shortest_or_malformed b bytes with ⟨first, n, rest, hsplit, hfirst⟩ | hbroken
      · obtain ⟨b', tails, rfl⟩ := hfirst.form.exists_eq_cons
        have hshorter : rest.length < length := by
          rw [← hlength, hsplit, List.length_append, List.length_cons]
          omega
        rw [hsplit, ← hfirst.utf8EncodeChar_eq]
        rcases ih rest.length hshorter rest rfl with ⟨s, rfl⟩ | ⟨s, broken, rfl, hbroken⟩
        · exact Or.inl ⟨Char.ofNat n :: s, (encode_cons _ s).symm⟩
        · refine Or.inr ⟨Char.ofNat n :: s, broken, ?_, hbroken⟩
          rw [encode_cons, List.append_assoc]
      · exact Or.inr ⟨[], b :: bytes, rfl, hbroken⟩

/-- Bytes are the encoding of no text exactly when they are malformed somewhere. -/
theorem forall_ne_encode_iff {bytes : List UInt8} :
    (∀ s, bytes ≠ encode s) ↔ ∃ s rest, bytes = encode s ++ rest ∧ Malformed rest := by
  constructor
  · intro hno
    rcases exists_encode_or_malformed bytes with ⟨s, hs⟩ | hbroken
    · exact absurd hs (hno s)
    · exact hbroken
  · rintro ⟨s, rest, rfl, hbroken⟩ t
    exact hbroken.append_ne_encode s t

end ProseCheck.Text.Utf8
