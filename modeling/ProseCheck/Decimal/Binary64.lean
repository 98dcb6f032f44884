/-!
# Binary floating point numbers of 64 bits

The numbers that a decimal fraction can be read as: a decimal is rounded to the nearest number with
53 binary digits, of two nearest ones to the one with an even mantissa. All arithmetic is exact.
-/

namespace ProseCheck.Decimal

/-- A floating point number. -/
inductive Binary64 where
  /-- The number `mantissa * 2 ^ exponent` or its negative. The mantissa is below `2 ^ 53`, and at
  least `2 ^ 52` unless the exponent is the least one, `-1074`. -/
  | finite (negative : Bool) (mantissa : Nat) (exponent : Int)
  /-- A number that is too large. -/
  | infinite (negative : Bool)
  /-- Not a number. -/
  | nan
  deriving DecidableEq, Repr, Inhabited

/-- The quotient of two natural numbers, rounded to the nearest one, a half to the even one. -/
def roundQuotient (num den : Nat) : Nat :=
  let q := num / den
  let r := num % den
  if 2 * r < den || (2 * r == den && q % 2 == 0) then q else q + 1

/-- The fraction `num / den` divided by `2 ^ e`. -/
def scaleBinary (num den : Nat) (e : Int) : Nat × Nat :=
  if e < 0 then (num * Nat.pow 2 (-e).toNat, den) else (num, den * Nat.pow 2 e.toNat)

namespace Binary64

/-- Makes a number of a mantissa that rounding may have raised to `2 ^ 53`. -/
def ofRounded (negative : Bool) (mantissa : Nat) (exponent : Int) : Binary64 :=
  let (mantissa, exponent) :=
    if mantissa == Nat.pow 2 53 then (Nat.pow 2 52, exponent + 1) else (mantissa, exponent)
  if 971 < exponent then infinite negative else finite negative mantissa exponent

/-- The number nearest to the positive fraction `num / den`. -/
def ofFraction (negative : Bool) (num den : Nat) : Binary64 :=
  let guess := max ((num.log2 : Int) - den.log2 - 53) (-1074)
  let (n, d) := scaleBinary num den guess
  let exponent := if Nat.pow 2 53 ≤ n / d then guess + 1 else guess
  let (n, d) := scaleBinary num den exponent
  ofRounded negative (roundQuotient n d) exponent

/-- The number of decimal digits of `n`. -/
def digitCount (n : Nat) : Nat :=
  (Nat.toDigits 10 n).length

/-- The number nearest to `digits * 10 ^ exponent`, or to its negative. -/
def ofDecimal (negative : Bool) (digits : Nat) (exponent : Int) : Binary64 :=
  if digits == 0 then finite negative 0 (-1074)
  else
    let magnitude := exponent + digitCount digits
    if 400 < magnitude then infinite negative
    else if magnitude < -400 then finite negative 0 (-1074)
    else if exponent < 0 then ofFraction negative digits (Nat.pow 10 (-exponent).toNat)
    else ofFraction negative (digits * Nat.pow 10 exponent.toNat) 1

/-- The integer that the number is, if it is one. -/
def toInt? : Binary64 → Option Int
  | finite negative mantissa exponent =>
    let magnitude? :=
      if 0 ≤ exponent then some (mantissa * Nat.pow 2 exponent.toNat)
      else
        let unit := Nat.pow 2 (-exponent).toNat
        if mantissa % unit == 0 then some (mantissa / unit) else none
    magnitude?.map fun n => if negative then -(n : Int) else n
  | _ => none

end Binary64

end ProseCheck.Decimal
