import ProseCheck.Json.Reader
import ProseCheck.Json.Writer
import ProseCheck.Proofs.CodePoints
import Mathlib.Algebra.Group.Nat.Defs
import Mathlib.Data.Int.Notation
import Mathlib.Data.List.TakeWhile
import Mathlib.Data.Nat.Notation

/-!
# Strings and integers in JSON

A string is read from the escapes that are written for its code points, one code point a step. An
integer is read from its digits up to the first code point that cannot belong to a number.
-/

namespace ProseCheck.Json

/-! ### Strings -/

/-- A hexadecimal digit has the value that it was written for. -/
theorem hexValue?_hexDigit : ∀ n < 16, hexValue? (.scalar (hexDigit n)) = some n := by
  decide

/-- The three ways to write a character: by a letter after a backslash, by its number, or as it
is. -/
theorem escapeChar_cases (c : Char) :
    (∃ d, d ≠ 'u' ∧ simpleEscape? (.scalar d) = some (.scalar c) ∧ escapeChar c = ['\\', d]) ∨
    (c.toNat < 0x20 ∧ escapeChar c =
      ['\\', 'u', '0', '0', hexDigit (c.toNat / 16), hexDigit (c.toNat % 16)]) ∨
    (c ≠ '"' ∧ c ≠ '\\' ∧ ¬c.toNat < 0x20 ∧ escapeChar c = [c]) := by
  by_cases hletter : c = '"' ∨ c = '\\' ∨ c = '\x08' ∨ c = '\x0c' ∨ c = '\n' ∨ c = '\r' ∨ c = '\t'
  · left
    rcases hletter with rfl | rfl | rfl | rfl | rfl | rfl | rfl
    · exact ⟨'"', by decide⟩
    · exact ⟨'\\', by decide⟩
    · exact ⟨'b', by decide⟩
    · exact ⟨'f', by decide⟩
    · exact ⟨'n', by decide⟩
    · exact ⟨'r', by decide⟩
    · exact ⟨'t', by decide⟩
  · right
    simp only [not_or] at hletter
    obtain ⟨hquote, hbackslash, hb, hf, hn, hr, ht⟩ := hletter
    by_cases hcontrol : c.toNat < 0x20
    · left
      simp [escapeChar, hquote, hbackslash, hb, hf, hn, hr, ht, hcontrol]
    · right
      simp [escapeChar, hquote, hbackslash, hb, hf, hn, hr, ht, hcontrol]

/-- A code point is written in at least one code point. -/
theorem length_escapePoint_pos (p : Point) : 0 < (escapePoint p).length := by
  cases p with
  | surrogate half => simp [escapePoint]
  | scalar c =>
    rcases escapeChar_cases c with ⟨d, _, _, h⟩ | ⟨_, h⟩ | ⟨_, _, _, h⟩ <;> simp [escapePoint, h]

/-- A control character is read from its number, if something follows it. -/
theorem readUnicodeEscape_hexDigits {n : ℕ} (hn : n < 0x20) {s : Str} (hs : s ≠ []) :
    readUnicodeEscape (.ofChars ['0', '0', hexDigit (n / 16), hexDigit (n % 16)] ++ s) =
      .ok (.scalar (Char.ofNat n), s) := by
  obtain ⟨e, t, rfl⟩ := List.exists_cons_of_ne_nil hs
  have hzero : hexValue? (.scalar '0') = some 0 := by decide
  have hunit : readUnit? (.ofChars ['0', '0', hexDigit (n / 16), hexDigit (n % 16)] ++ e :: t) =
      some (n, e :: t) := by
    simp only [Str.ofChars_cons, Str.ofChars_nil, List.cons_append, List.nil_append, readUnit?,
      hzero, hexValue?_hexDigit (n / 16) (by omega), hexValue?_hexDigit (n % 16) (by omega), bind,
      Option.bind, pure]
    have hvalue : ((0 * 16 + 0) * 16 + n / 16) * 16 + n % 16 = n := by omega
    rw [hvalue]
  have hhigh : Text.isHighSurrogate n = false := by
    simp [Text.isHighSurrogate]
    omega
  have hpoint : Point.ofNat n = .scalar (Char.ofNat n) :=
    dif_neg (by simp only [Point.firstSurrogate]; omega)
  simp only [readUnicodeEscape, hunit, hhigh, hpoint]
  split <;> simp

/-- One step of reading a string: a code point is read from what is written for it. -/
theorem readString_escapePoint {opened fuel : ℕ} {s text rest : Str} (p : Point)
    (hs : s ≠ []) (hread : readString opened fuel s = .ok (text, rest)) :
    readString opened (fuel + 1) (escapePoint p ++ s) = .ok (p :: text, rest) := by
  cases p with
  | surrogate half =>
    have hplain : ¬(Point.surrogate half).toNat < 0x20 := by
      simp only [Point.toNat, Point.firstSurrogate]
      omega
    simp [escapePoint, readString, hplain, hread, bind, Except.bind, pure, Except.pure]
  | scalar c =>
    rcases escapeChar_cases c with
      ⟨d, hd, hletter, h⟩ | ⟨hcontrol, h⟩ | ⟨hquote, hbackslash, hplain, h⟩
    · simp [escapePoint, h, readString, hd, hletter, hread, bind, Except.bind, pure, Except.pure]
    · have hescape := readUnicodeEscape_hexDigits hcontrol hs
      simp only [Str.ofChars_cons, Str.ofChars_nil, List.cons_append, List.nil_append] at hescape
      simp [escapePoint, h, readString, hescape, hread, bind, Except.bind, pure, Except.pure]
    · have hplain' : ¬(Point.scalar c).toNat < 0x20 := hplain
      simp [escapePoint, h, readString, hquote, hbackslash, hplain', hread, bind, Except.bind, pure,
        Except.pure]

/-- A string is read from what is written for it, in a step for each of its code points and one for
the quote. -/
theorem readString_flatMap_escapePoint {opened fuel : ℕ} (s rest : Str)
    (hfuel : s.length < fuel) :
    readString opened fuel (s.flatMap escapePoint ++ .scalar '"' :: rest) = .ok (s, rest) := by
  induction s generalizing fuel with
  | nil =>
    obtain ⟨fuel, rfl⟩ : ∃ k, fuel = k + 1 := ⟨fuel - 1, by simp at hfuel; omega⟩
    simp [readString]
  | cons p s ih =>
    obtain ⟨fuel, rfl⟩ : ∃ k, fuel = k + 1 := ⟨fuel - 1, by simp at hfuel; omega⟩
    have hrest := @ih fuel (by simpa using hfuel)
    rw [List.flatMap_cons, List.append_assoc]
    exact readString_escapePoint p (by simp) hrest

/-- What is written for a string is at least as long as the string. -/
theorem length_le_length_flatMap_escapePoint (s : Str) :
    s.length ≤ (s.flatMap escapePoint).length := by
  induction s with
  | nil => simp
  | cons p s ih =>
    have hp := length_escapePoint_pos p
    simp only [List.flatMap_cons, List.length_cons, List.length_append]
    omega

/-- A string is read from what is written for it after the opening quote. -/
theorem readQuoted_flatMap_escapePoint (s rest : Str) :
    readQuoted (s.flatMap escapePoint ++ .scalar '"' :: rest) = .ok (s, rest) := by
  have hlength := length_le_length_flatMap_escapePoint s
  have hfuel : s.length < (s.flatMap escapePoint ++ .scalar '"' :: rest).length + 1 := by
    rw [List.length_append]
    omega
  rw [readQuoted, readString_flatMap_escapePoint s rest hfuel]

/-! ### Integers -/

/-- Nothing at the start of a text would make a number in front of it longer. -/
def EndsNumber (s : Str) : Prop :=
  ∀ c ∈ s.head?, isDigit c = false ∧ c ≠ .scalar '.' ∧ c ≠ .scalar 'e' ∧ c ≠ .scalar 'E'

/-- The digits of a number as a text. -/
def numeral (n : ℕ) : Str :=
  .ofChars (Nat.toDigits 10 n)

/-- The digits of a number are digits. -/
theorem isDigit_of_mem_numeral {n : ℕ} {p : Point} (hp : p ∈ numeral n) : isDigit p = true := by
  obtain ⟨c, hc, rfl⟩ := Str.mem_ofChars.mp hp
  have hdigit := Nat.isDigit_of_mem_toDigits (by decide) (by decide) hc
  simpa [isDigit, Point.has, Char.isDigit, Char.le_def] using hdigit

/-- The digits of a number are read as that number. -/
theorem digitsValue_numeral (n : ℕ) : digitsValue (numeral n) = n := by
  have hvalue := Nat.ofDigitChars_ten_toDigits (n := n)
  rw [Nat.ofDigitChars_eq_foldl] at hvalue
  simpa only [digitsValue, numeral, Str.ofChars, List.foldl_map, Point.toNat, Nat.mul_comm]
    using hvalue

/-- A number starts with a digit, which is a zero for the number zero only. -/
theorem exists_numeral_eq_cons (n : ℕ) :
    ∃ c s, numeral n = c :: s ∧ isDigit c = true ∧ (0 < n → c ≠ .scalar '0') := by
  induction n using Nat.strongRecOn with
  | ind n ih =>
    by_cases hsmall : n < 10
    · have hdigit : ∀ d < 10, isDigit (.scalar d.digitChar) = true ∧
          (0 < d → Point.scalar d.digitChar ≠ .scalar '0') := by
        decide
      refine ⟨.scalar n.digitChar, [], ?_, hdigit n hsmall⟩
      rw [numeral, Nat.toDigits_of_lt_base hsmall]
      rfl
    · obtain ⟨c, s, hdigits, hc, hzero⟩ := ih (n / 10) (by omega)
      refine ⟨c, s ++ [.scalar (n % 10).digitChar], ?_, hc, fun _ => hzero (by omega)⟩
      rw [numeral, Nat.toDigits_of_base_le (by decide) (by omega), Str.ofChars_append, ← numeral,
        hdigits]
      rfl

section Number

variable {rest : Str} (hrest : EndsNumber rest)

include hrest

/-- The digits in front of a text that ends a number are those of the number. -/
theorem takeWhile_isDigit_numeral (n : ℕ) :
    (numeral n ++ rest).takeWhile isDigit = numeral n := by
  rw [List.takeWhile_append_of_pos fun c hc => isDigit_of_mem_numeral hc]
  cases rest with
  | nil => simp
  | cons c rest =>
    have hc : isDigit c = false := (hrest c (by simp)).1
    simp [hc]

/-- The integer digits of a number are all its digits. -/
theorem integerDigits_numeral (n : ℕ) : integerDigits (numeral n ++ rest) = numeral n := by
  rcases Nat.eq_zero_or_pos n with rfl | hn
  · rfl
  · have htake := takeWhile_isDigit_numeral hrest n
    obtain ⟨c, s, hdigits, _, hzero⟩ := exists_numeral_eq_cons n
    rw [hdigits, List.cons_append] at htake ⊢
    rw [integerDigits, htake]
    intro t heq
    exact hzero hn (List.cons.inj heq).1

/-- No fraction starts where a number ends. -/
theorem readFraction_of_endsNumber : readFraction rest = ([], rest) := by
  unfold readFraction
  split
  · exact absurd rfl (hrest (.scalar '.') (by simp)).2.1
  · rfl

/-- No exponent starts where a number ends. -/
theorem readExponent_of_endsNumber : readExponent rest = (none, rest) := by
  cases rest with
  | nil => rfl
  | cons c rest =>
    obtain ⟨_, _, he, hE⟩ := hrest c (by simp)
    simp [readExponent, he, hE]

/-- A number is read from its digits. -/
theorem readNumber_numeral (left : ℕ) (negative : Bool) {n : ℕ} (hn : n < 10 ^ Text.digitLimit) :
    readNumber left negative (numeral n ++ rest) =
      .ok (.int (if negative then -(n : ℤ) else n), rest) := by
  have hdigits := integerDigits_numeral hrest n
  have hlength : ¬Text.digitLimit < (numeral n).length := by
    rw [numeral, Str.length_ofChars, Nat.not_lt]
    exact (Nat.length_toDigits_le_iff (by decide) (by decide)).mpr hn
  have hne : (numeral n).isEmpty = false := by
    obtain ⟨c, s, hcons, _⟩ := exists_numeral_eq_cons n
    simp [hcons]
  simp only [readNumber, hdigits, hne, List.drop_left, readFraction_of_endsNumber hrest,
    readExponent_of_endsNumber hrest, digitsValue_numeral, if_neg hlength]
  simp

end Number

/-! ### Words -/

/-- A word is read as its value. No word is the start of another one. -/
theorem readLiteral?_append {word : String} {value : Value} (hmem : (word, value) ∈ literals)
    (rest : Str) : readLiteral? (word ++ rest) = some (value, rest) := by
  simp only [literals, List.mem_cons, List.not_mem_nil, or_false, Prod.mk.injEq] at hmem
  rcases hmem with ⟨rfl, rfl⟩ | ⟨rfl, rfl⟩ | ⟨rfl, rfl⟩ | ⟨rfl, rfl⟩ | ⟨rfl, rfl⟩ | ⟨rfl, rfl⟩ <;>
    rfl

/-- No word starts with a digit, or with a minus and a digit. -/
theorem readLiteral?_eq_none {c : Point} (hc : isDigit c = true) (s : Str) :
    readLiteral? (c :: s) = none ∧ readLiteral? (.scalar '-' :: c :: s) = none := by
  have hne {d : Char} (hd : isDigit (.scalar d) = false) : Point.scalar d ≠ c := by
    rintro rfl
    simp [hd] at hc
  have hn : Point.scalar 'n' ≠ c := hne (by decide)
  have ht : Point.scalar 't' ≠ c := hne (by decide)
  have hf : Point.scalar 'f' ≠ c := hne (by decide)
  have hN : Point.scalar 'N' ≠ c := hne (by decide)
  have hI : Point.scalar 'I' ≠ c := hne (by decide)
  have hminus : Point.scalar '-' ≠ c := hne (by decide)
  constructor <;> simp [readLiteral?, literals, Str.ofString, hn, ht, hf, hN, hI, hminus]

/-- An integer starts with a minus or a digit. -/
theorem exists_writeInteger_eq_cons (n : ℤ) :
    ∃ c s, Str.ofChars (Text.writeInteger n) = c :: s ∧
      (c = .scalar '-' ∨ isDigit c = true) := by
  obtain ⟨c, s, hdigits, hc, _⟩ := exists_numeral_eq_cons n.natAbs
  by_cases hneg : n < 0
  · refine ⟨.scalar '-', c :: s, ?_, Or.inl rfl⟩
    rw [Text.writeInteger, if_pos hneg, Str.ofChars_cons, ← numeral, hdigits]
  · refine ⟨c, s, ?_, Or.inr hc⟩
    rw [Text.writeInteger, if_neg hneg, ← numeral, hdigits]

/-- An integer is read from what is written for it. -/
theorem readScalar_writeInteger {n : ℤ} (hn : n.natAbs < 10 ^ Text.digitLimit) {rest : Str}
    (hrest : EndsNumber rest) :
    readScalar (.ofChars (Text.writeInteger n) ++ rest) = .ok (.int n, rest) := by
  obtain ⟨c, s, hdigits, hc, _⟩ := exists_numeral_eq_cons n.natAbs
  obtain ⟨hword, hword'⟩ := readLiteral?_eq_none hc (s ++ rest)
  rw [← List.cons_append, ← hdigits] at hword hword'
  by_cases hneg : n < 0
  · have hvalue : -(n.natAbs : ℤ) = n := by omega
    rw [Text.writeInteger, if_pos hneg, Str.ofChars_cons, ← numeral, List.cons_append]
    simp only [readScalar, hword', readNumber_numeral hrest _ true hn, if_true, hvalue]
  · have hvalue : (n.natAbs : ℤ) = n := by omega
    have hminus : ∀ t, numeral n.natAbs ++ rest ≠ .scalar '-' :: t := by
      intro t heq
      rw [hdigits, List.cons_append, List.cons.injEq] at heq
      rw [heq.1] at hc
      exact absurd hc (by decide)
    rw [Text.writeInteger, if_neg hneg, ← numeral, readScalar, hword]
    simp only
    rw [readNumber_numeral hrest _ false hn]
    · simp only [Bool.false_eq_true, if_false, hvalue]
    · exact hminus

end ProseCheck.Json
