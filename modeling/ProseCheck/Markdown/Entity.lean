import ProseCheck.Markdown.EntityTable

/-!
# Character references

References to characters by name or by number. A number that is no character of a text, such as a
control code, a surrogate or a code point that is never assigned, is not a valid reference.
-/

namespace ProseCheck.Markdown

/-- The characters with the given name. -/
def namedEntity? (name : List Char) : Option (List Char) :=
  (entityTable.lookup (String.ofList name)).map fun points => points.map Char.ofNat

/-- Whether a reference may name the code point `n`. -/
def isValidReference (n : Nat) : Bool :=
  !((0xD800 ≤ n && n ≤ 0xDFFF) || (0xFDD0 ≤ n && n ≤ 0xFDEF) || n % 0x10000 == 0xFFFF ||
    n % 0x10000 == 0xFFFE || n ≤ 0x08 || n == 0x0B || (0x0E ≤ n && n ≤ 0x1F) ||
    (0x7F ≤ n && n ≤ 0x9F) || 0x10FFFF < n)

/-- The value of a hexadecimal digit of either case. -/
def hexDigit? (c : Char) : Option Nat :=
  if '0' ≤ c && c ≤ '9' then some (c.toNat - '0'.toNat)
  else if 'a' ≤ c && c ≤ 'f' then some (c.toNat - 'a'.toNat + 10)
  else if 'A' ≤ c && c ≤ 'F' then some (c.toNat - 'A'.toNat + 10)
  else none

/-- The number that starts with the digits of `n` and goes on with the digit `c`, if it is one. -/
def appendDigit? (base : Nat) (n : Option Nat) (c : Char) : Option Nat :=
  match n, hexDigit? c with
  | some n, some d => if d < base then some (n * base + d) else none
  | _, _ => none

/-- The value of a text in the given base, if all its characters are digits. -/
def numeral? (base : Nat) (digits : List Char) : Option Nat :=
  digits.foldl (appendDigit? base) (some 0)

/-- The code point that a numeric reference names by what stands between its number sign and its
semicolon: up to `decimals` decimal digits, or an `x` and up to `hexadecimals` hexadecimal
digits. -/
def referenceNumber? (decimals hexadecimals : Nat) (s : List Char) : Option Nat :=
  match s with
  | [] => none
  | c :: digits =>
    if c == 'x' || c == 'X' then
      if digits.isEmpty || hexadecimals < digits.length then none else numeral? 16 digits
    else if decimals < s.length then none
    else numeral? 10 s

/-- Whether `c` is an ASCII letter or digit, one of the characters of a reference. -/
def isReferenceChar (c : Char) : Bool :=
  ('a' ≤ c && c ≤ 'z') || ('A' ≤ c && c ≤ 'Z') || ('0' ≤ c && c ≤ '9')

/-- What stands between an ampersand and the semicolon after it, and what follows, if it can be the
name or number of a character. The text starts after the ampersand. -/
def referenceName? (s : List Char) : Option (List Char × List Char) :=
  let sign := s.takeWhile (· == '#')
  let t := s.drop sign.length
  let name := t.takeWhile isReferenceChar
  match t.drop name.length with
  | ';' :: rest => if sign.length ≤ 1 then some (sign ++ name, rest) else none
  | _ => none

/-- The characters that a reference in prose stands for, and the text after the reference. The text
starts after the ampersand. Numbers that are no valid reference stand for the replacement
character. -/
def proseReference? (s : List Char) : Option (List Char × List Char) := do
  let (name, rest) ← referenceName? s
  match name with
  | '#' :: number =>
    let n ← referenceNumber? 7 6 number
    return ([Char.ofNat (if isValidReference n then n else 0xFFFD)], rest)
  | _ => return (← namedEntity? name, rest)

/-- The characters that a reference in a link stands for, and the text after the reference. The text
starts after the ampersand. Numbers that are no valid reference stand for nothing. -/
def linkReference? (s : List Char) : Option (List Char × List Char) := do
  let (name, rest) ← referenceName? s
  match name with
  | '#' :: number =>
    let n ← referenceNumber? 8 8 number
    if isValidReference n then return ([Char.ofNat n], rest) else none
  | _ => return (← namedEntity? name, rest)

/-- Whether `c` is an ASCII punctuation character, which a backslash can take literally. -/
def isAsciiPunctuation (c : Char) : Bool :=
  let n := c.toNat
  (0x21 ≤ n && n ≤ 0x2F) || (0x3A ≤ n && n ≤ 0x40) || (0x5B ≤ n && n ≤ 0x60) ||
    (0x7B ≤ n && n ≤ 0x7E)

/-- A link destination with its backslash escapes and character references resolved, in at most
`fuel` steps. -/
def unescapeSteps : (fuel : Nat) → List Char → List Char
  | 0, s => s
  | _, [] => []
  | fuel + 1, c :: s =>
    if c == '\\' && s.head?.any isAsciiPunctuation then
      s.take 1 ++ unescapeSteps fuel (s.drop 1)
    else if c == '&' then
      match linkReference? s with
      | some (ds, rest) => ds ++ unescapeSteps fuel rest
      | none => c :: unescapeSteps fuel s
    else c :: unescapeSteps fuel s

/-- A link destination with its backslash escapes and character references resolved. -/
def unescape (s : List Char) : List Char :=
  unescapeSteps s.length s

end ProseCheck.Markdown
