import ProseCheck.Text.Blank
import ProseCheck.Text.DecimalDigit
import ProseCheck.Text.DigitLimit

/-!
# Integers in texts

An integer is written in decimal digits. It is read more freely: blanks may stand around it, a sign
in front, and single underscores between digits. Which characters are digits is up to the reader.
-/

namespace ProseCheck.Text

/-- The digits after a digit: an underscore has to be followed by another digit. -/
def digitsAfter? (digit? : Char → Option Nat) : List Char → Option (List Nat)
  | [] => some []
  | '_' :: c :: s =>
    (digit? c).bind fun d => (digitsAfter? digit? s).map (d :: ·)
  | c :: s => (digit? c).bind fun d => (digitsAfter? digit? s).map (d :: ·)

/-- The digits of a text that consists of digits and single underscores between them. -/
def groupedDigits? (digit? : Char → Option Nat) : List Char → Option (List Nat)
  | [] => none
  | c :: s => (digit? c).bind fun d => (digitsAfter? digit? s).map (d :: ·)

/-- The number with the given digits, most significant first. -/
def ofDigits (digits : List Nat) : Nat :=
  digits.foldl (fun n d => n * 10 + d) 0

/-- The sign at the start of a text, whether it is negative, and what follows. -/
def splitSign : List Char → Bool × List Char
  | '-' :: s => (true, s)
  | '+' :: s => (false, s)
  | s => (false, s)

/-- The number `n` or its negative. -/
def signed (negative : Bool) (n : Nat) : Int :=
  if negative then -(n : Int) else n

/-- The value of an ASCII digit. -/
def asciiDigit? (c : Char) : Option Nat :=
  if '0' ≤ c && c ≤ '9' then some (c.toNat - '0'.toNat) else none

/-- A text without the blanks at its two ends that may stand around an integer. Information
separators may not. -/
def trimInteger (s : List Char) : List Char :=
  trimBy (fun c => isBlank c && !isInformationSeparator c) s

/-- An integer in decimal digits, with a sign if it is negative. -/
def writeInteger (n : Int) : List Char :=
  if n < 0 then '-' :: Nat.toDigits 10 n.natAbs else Nat.toDigits 10 n.natAbs

/-- The integer that a text writes in the digits of any scripts, if it has no more digits than are
allowed. -/
def integer? (s : List Char) : Option Int :=
  let (negative, digits) := splitSign (trimInteger s)
  match groupedDigits? digitValue? digits with
  | none => none
  | some ds => if digitLimit < ds.length then none else some (signed negative (ofDigits ds))

end ProseCheck.Text
