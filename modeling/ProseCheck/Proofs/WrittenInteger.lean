import ProseCheck.Text.Integer
import Mathlib.Algebra.Group.Nat.Defs
import Mathlib.Data.Int.Notation
import Mathlib.Data.Nat.Notation
import Mathlib.Tactic.ByContra

/-!
# Integers as they are written

An integer is written in ASCII digits, which are decimal digits with their usual values. So a number
that is written is read back, and the characters that end it do not occur in it.
-/

namespace ProseCheck.Text

/-- The value of an ASCII digit. -/
theorem digitValue?_of_isDigit {c : Char} (hc : c.isDigit = true) :
    digitValue? c = some (c.toNat - '0'.toNat) := by
  have hrange : 0x30 ≤ c.toNat ∧ c.toNat < 0x30 + 10 := by
    simp only [Char.isDigit, Bool.and_eq_true, decide_eq_true_eq, ge_iff_le,
      UInt32.le_iff_toNat_le] at hc
    have hlow : 48 ≤ c.val.toNat := hc.1
    have hhigh : c.val.toNat ≤ 57 := hc.2
    change 48 ≤ c.val.toNat ∧ c.val.toNat < 58
    omega
  have hnot : ¬c.toNat < 0x30 := by omega
  simp only [digitValue?, digitZeros, digitValueAmong?, if_neg hnot, if_pos hrange.2]
  rfl

/-- The digits of a number are decimal digits. -/
theorem isDecimalDigit_of_mem_toDigits {n : ℕ} {c : Char} (hc : c ∈ Nat.toDigits 10 n) :
    isDecimalDigit c = true := by
  have hdigit := Nat.isDigit_of_mem_toDigits (by decide) (by decide) hc
  rw [isDecimalDigit, digitValue?_of_isDigit hdigit]
  rfl

/-- The digits of a number are read as that number. -/
theorem decimalValue_toDigits (n : ℕ) : decimalValue (Nat.toDigits 10 n) = n := by
  have hfold (digits : List Char) (hdigits : ∀ c ∈ digits, c.isDigit = true) (start : ℕ) :
      digits.foldl (fun n c => n * 10 + (digitValue? c).getD 0) start =
        Nat.ofDigitChars 10 digits start := by
    induction digits generalizing start with
    | nil => simp
    | cons c digits ih =>
      have hc := digitValue?_of_isDigit (hdigits c (by simp))
      rw [List.foldl_cons, ih (fun d hd => hdigits d (by simp [hd])), Nat.ofDigitChars_cons, hc,
        Option.getD_some, Nat.mul_comm]
  have hdigits : ∀ c ∈ Nat.toDigits 10 n, c.isDigit = true := fun c hc =>
    Nat.isDigit_of_mem_toDigits (by decide) (by decide) hc
  rw [decimalValue, hfold _ hdigits, Nat.ofDigitChars_ten_toDigits]

/-- A natural number is written in its digits. -/
theorem writeInteger_of_nonneg {n : ℤ} (hn : 0 ≤ n) :
    writeInteger n = Nat.toDigits 10 n.natAbs := by
  rw [writeInteger, if_neg (by omega)]

/-- A written number is read as that number. -/
theorem decimalValue_writeInteger {n : ℤ} (hn : 0 ≤ n) :
    (decimalValue (writeInteger n) : ℤ) = n := by
  rw [writeInteger_of_nonneg hn, decimalValue_toDigits]
  omega

/-- A number below the limit is written in as many digits as can be read. -/
theorem length_writeInteger_le {n : ℤ} (hn : 0 ≤ n) (hlimit : n.natAbs < 10 ^ digitLimit) :
    (writeInteger n).length ≤ digitLimit := by
  rw [writeInteger_of_nonneg hn]
  exact (Nat.length_toDigits_le_iff (by decide) (by decide)).mpr hlimit

/-- A number of two digits is far below the limit. -/
theorem lt_ten_pow_digitLimit {n : ℕ} (hn : n < 10 ^ 2) : n < 10 ^ digitLimit :=
  Nat.lt_of_lt_of_le hn (Nat.pow_le_pow_right (by decide) (by decide))

/-- Every integer has a character to write. -/
theorem writeInteger_ne_nil (n : ℤ) : writeInteger n ≠ [] := by
  unfold writeInteger
  split
  · simp
  · exact Nat.toDigits_ne_nil

/-- The characters of a written integer are a sign or decimal digits. -/
theorem eq_minus_or_isDecimalDigit {n : ℤ} {c : Char} (hc : c ∈ writeInteger n) :
    c = '-' ∨ isDecimalDigit c = true := by
  unfold writeInteger at hc
  split at hc
  · rcases List.mem_cons.mp hc with rfl | hc
    · exact Or.inl rfl
    · exact Or.inr (isDecimalDigit_of_mem_toDigits hc)
  · exact Or.inr (isDecimalDigit_of_mem_toDigits hc)

/-- A natural number is written in decimal digits. -/
theorem isDecimalDigit_of_mem_writeInteger {n : ℤ} (hn : 0 ≤ n) :
    ∀ c ∈ writeInteger n, isDecimalDigit c = true := by
  intro c hc
  rw [writeInteger_of_nonneg hn] at hc
  exact isDecimalDigit_of_mem_toDigits hc

/-- A written integer that consists of decimal digits is not negative. -/
theorem nonneg_of_forall_isDecimalDigit {n : ℤ}
    (hdigits : ∀ c ∈ writeInteger n, isDecimalDigit c = true) : 0 ≤ n := by
  by_contra hneg
  have hminus : '-' ∈ writeInteger n := by
    rw [writeInteger, if_pos (by omega)]
    simp
  exact absurd (hdigits '-' hminus) (by decide)

/-- A character that is neither a sign nor a decimal digit occurs in no written integer. -/
theorem not_mem_writeInteger {c : Char} (hminus : c ≠ '-') (hdigit : isDecimalDigit c = false)
    (n : ℤ) : c ∉ writeInteger n := by
  intro hc
  rcases eq_minus_or_isDecimalDigit hc with heq | heq
  · exact hminus heq
  · simp [hdigit] at heq

end ProseCheck.Text
