import ProseCheck.Decimal.Binary64

/-!
# The shortest decimal of a floating point number

The decimal with the fewest digits that is read back as a given number; of several, the one nearest
to it. For every count of digits, the two decimals with that count on either side of the number are
tried.
-/

namespace ProseCheck.Decimal

/-- A positive fraction. -/
structure Fraction where
  num : Nat
  den : Nat

namespace Fraction

/-- The product of a natural number and a power of two. -/
def ofBinary (mantissa : Nat) (exponent : Int) : Fraction :=
  if exponent < 0 then ⟨mantissa, Nat.pow 2 (-exponent).toNat⟩
  else ⟨mantissa * Nat.pow 2 exponent.toNat, 1⟩

/-- The product of a natural number and a power of ten. -/
def ofDecimal (digits : Nat) (exponent : Int) : Fraction :=
  if exponent < 0 then ⟨digits, Nat.pow 10 (-exponent).toNat⟩
  else ⟨digits * Nat.pow 10 exponent.toNat, 1⟩

/-- Whether the first fraction is less than the second. -/
def lt (a b : Fraction) : Bool :=
  a.num * b.den < b.num * a.den

/-- Whether the first fraction is at most the second. -/
def le (a b : Fraction) : Bool :=
  a.num * b.den ≤ b.num * a.den

/-- The fraction divided by a power of ten, rounded down. -/
def floorDecimal (a : Fraction) (exponent : Int) : Nat :=
  if exponent < 0 then a.num * Nat.pow 10 (-exponent).toNat / a.den
  else a.num / (a.den * Nat.pow 10 exponent.toNat)

/-- The least `t` from `start` on, within `fuel` steps, with `1 ≤ a * 10 ^ t`. -/
def leadingZeros (a : Fraction) : (fuel start : Nat) → Nat
  | 0, start => start
  | fuel + 1, start =>
    if a.den ≤ a.num * Nat.pow 10 start then start else leadingZeros a fuel (start + 1)

/-- The power of ten of the leading digit of the fraction. -/
def leadingPower (a : Fraction) : Int :=
  if a.den ≤ a.num then (Binary64.digitCount (a.num / a.den) : Int) - 1
  else -(leadingZeros a 400 1 : Int)

end Fraction

/-- The numbers that are read as a given floating point number: those between two bounds, and the
bounds themselves if `closed`. -/
structure Interval where
  low : Fraction
  high : Fraction
  closed : Bool

/-- Whether a fraction lies in the interval. -/
def Interval.contains (i : Interval) (a : Fraction) : Bool :=
  if i.closed then i.low.le a && a.le i.high else i.low.lt a && a.lt i.high

/-- The numbers that are read as `mantissa * 2 ^ exponent`. Below a power of two the neighbours are
closer. -/
def roundingInterval (mantissa : Nat) (exponent : Int) : Interval :=
  let isPower := mantissa == Nat.pow 2 52 && -1074 < exponent
  { low := Fraction.ofBinary (if isPower then 4 * mantissa - 1 else 4 * mantissa - 2) (exponent - 2)
    high := Fraction.ofBinary (4 * mantissa + 2) (exponent - 2)
    closed := mantissa % 2 == 0 }

/-- The decimal with `count` digits in the interval that is nearest to the number, of two equally
near ones the even one; digits and power of ten. -/
def candidate? (value : Fraction) (interval : Interval) (count : Nat) : Option (Nat × Int) :=
  let exponent := value.leadingPower + 1 - count
  let low := value.floorDecimal exponent
  let lowFits := interval.contains (Fraction.ofDecimal low exponent)
  let highFits := interval.contains (Fraction.ofDecimal (low + 1) exponent)
  let middle := Fraction.ofDecimal (10 * low + 5) (exponent - 1)
  if lowFits && highFits then
    if value.lt middle || (value.le middle && low % 2 == 0) then some (low, exponent)
    else some (low + 1, exponent)
  else if lowFits then some (low, exponent)
  else if highFits then some (low + 1, exponent)
  else none

/-- The first candidate with `count` digits or more, within `fuel` further digits. -/
def firstCandidate (value : Fraction) (interval : Interval) : (fuel count : Nat) → Nat × Int
  | 0, count => (candidate? value interval count).getD (0, 0)
  | fuel + 1, count =>
    (candidate? value interval count).getD (firstCandidate value interval fuel (count + 1))

/-- The decimal with the fewest digits that is read back as `mantissa * 2 ^ exponent`: digits and
power of ten. Zero has one digit. -/
def shortest (mantissa : Nat) (exponent : Int) : Nat × Int :=
  if mantissa == 0 then (0, 0)
  else
    firstCandidate (Fraction.ofBinary mantissa exponent) (roundingInterval mantissa exponent) 16 1

/-- How decimals are written. -/
structure Layout where
  /-- The least power of ten of a leading digit that is written without an exponent. -/
  least : Int
  /-- The greatest power of ten of a leading digit that is written without an exponent. -/
  greatest : Int
  /-- The least number of digits of an exponent. -/
  exponentDigits : Nat

/-- The texts of numbers: an exponent is written below `1e-4` and from `1e16` on, with a sign and at
least two digits; an integer has a decimal point and a zero. -/
def standardLayout : Layout :=
  { least := -4, greatest := 15, exponentDigits := 2 }

/-- A text filled up with zeros in front to a width. -/
def padZeros (width : Nat) (s : String) : String :=
  String.ofList (List.replicate (width - s.length) '0') ++ s

/-- Writes the decimal `digits * 10 ^ exponent`. -/
def Layout.writeDecimal (layout : Layout) (digits : Nat) (exponent : Int) : String :=
  let all := Nat.toDigits 10 digits
  let power := (all.length : Int) - 1 + exponent
  let significant := (all.reverse.dropWhile (· == '0')).reverse
  let ds := if significant.isEmpty then ['0'] else significant
  let zeros (n : Int) := List.replicate n.toNat '0'
  if layout.least ≤ power && power ≤ layout.greatest then
    if power < 0 then String.ofList ("0.".toList ++ zeros (-power - 1) ++ ds)
    else
      let count := power.toNat + 1
      let whole := ds.take count ++ zeros (count - ds.length)
      let part := ds.drop count
      String.ofList (whole ++ '.' :: if part.isEmpty then ['0'] else part)
  else
    let mantissa := ds.take 1 ++ if ds.length ≤ 1 then [] else '.' :: ds.drop 1
    String.ofList mantissa ++ "e" ++ (if power < 0 then "-" else "+") ++
      padZeros layout.exponentDigits (toString power.natAbs)

/-- The text of a floating point number. -/
def Layout.write (layout : Layout) : Binary64 → String
  | .finite negative mantissa exponent =>
    let (digits, power) := shortest mantissa exponent
    (if negative then "-" else "") ++ layout.writeDecimal digits power
  | .infinite negative => if negative then "-inf" else "inf"
  | .nan => "nan"

end ProseCheck.Decimal
