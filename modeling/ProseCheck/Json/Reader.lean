import ProseCheck.Json.Value
import ProseCheck.Text.Encoding
import ProseCheck.Text.DigitLimit

/-!
# Reading JSON

A reader takes the text that is left and returns a value with the text after it. A fault tells what
was expected and how many code points were left, from which its position in the text follows.
Besides JSON proper, `NaN`, `Infinity` and `-Infinity` are accepted, and integers of more than 4300
digits are refused.
-/

namespace ProseCheck.Json

/-- What is wrong with a text that is no JSON. -/
inductive Malformation where
  | expectedValue
  | expectedName
  | expectedColon
  | expectedComma
  | unterminatedString
  | controlCharacter
  | invalidEscape
  | invalidUnicodeEscape
  | extraData
  deriving DecidableEq, Repr

/-- The wording of a malformation. -/
def Malformation.message : Malformation → String
  | expectedValue => "Expecting value"
  | expectedName => "Expecting property name enclosed in double quotes"
  | expectedColon => "Expecting ':' delimiter"
  | expectedComma => "Expecting ',' delimiter"
  | unterminatedString => "Unterminated string starting at"
  | controlCharacter => "Invalid control character at"
  | invalidEscape => "Invalid \\escape"
  | invalidUnicodeEscape => "Invalid \\uXXXX escape"
  | extraData => "Extra data"

/-- Why a text cannot be read. -/
inductive Fault where
  /-- The text is malformed where `left` code points of it are left. -/
  | malformed (what : Malformation) (left : Nat)
  /-- An integer has too many digits. -/
  | tooManyDigits (integer : Text.TooManyDigits)
  deriving DecidableEq, Repr

/-- Whether `c` is white space between the parts of a text. -/
def isSpace (c : Point) : Bool :=
  c == ' ' || c == '\t' || c == '\n' || c == '\r'

/-- The text without the white space at its start. -/
def skipSpace (s : Str) : Str :=
  s.dropWhile isSpace

/-- Whether `c` is a digit. -/
def isDigit (c : Point) : Bool :=
  c.has fun c => '0' ≤ c && c ≤ '9'

/-- The number that a run of digits writes. -/
def digitsValue (digits : Str) : Nat :=
  digits.foldl (fun n c => n * 10 + (c.toNat - '0'.toNat)) 0

/-- The value of a hexadecimal digit. -/
def hexValue? (c : Point) : Option Nat :=
  if isDigit c then some (c.toNat - '0'.toNat)
  else if c.has fun c => 'a' ≤ c && c ≤ 'f' then some (c.toNat - 'a'.toNat + 10)
  else if c.has fun c => 'A' ≤ c && c ≤ 'F' then some (c.toNat - 'A'.toNat + 10)
  else none

/-- The code unit that four hexadecimal digits at the start of a text write, and the text after
them, which has to have something. -/
def readUnit? : Str → Option (Nat × Str)
  | a :: b :: c :: d :: e :: s => do
    let unit := (((← hexValue? a) * 16 + (← hexValue? b)) * 16 + (← hexValue? c)) * 16 +
      (← hexValue? d)
    return (unit, e :: s)
  | _ => none

/-- The code point of an escape that starts after a backslash and the letter `u`, and the text after
the escape. The first half of a pair takes the second one along. -/
def readUnicodeEscape (s : Str) : Except Fault (Point × Str) :=
  match readUnit? s with
  | none => .error (.malformed .invalidUnicodeEscape (s.length + 1))
  | some (u, rest) =>
    match rest with
    | .scalar '\\' :: .scalar 'u' :: t =>
      if Text.isHighSurrogate u && 4 < t.length then
        match readUnit? t with
        | none => .error (.malformed .invalidUnicodeEscape (t.length + 1))
        | some (v, after) =>
          if Text.isLowSurrogate v then .ok (Text.pairPoint u v, after)
          else .ok (.ofNat u, rest)
      else .ok (.ofNat u, rest)
    | _ => .ok (.ofNat u, rest)

/-- The character that a backslash and the letter `c` stand for. -/
def simpleEscape? (c : Point) : Option Point :=
  if c == '"' || c == '\\' || c == '/' then some c
  else if c == 'b' then some (.scalar '\x08')
  else if c == 'f' then some (.scalar '\x0c')
  else if c == 'n' then some (.scalar '\n')
  else if c == 'r' then some (.scalar '\r')
  else if c == 't' then some (.scalar '\t')
  else none

/-- Reads a string up to its closing quote, in at most `fuel` steps. The number `opened` tells how
many code points were left at the opening quote. -/
def readString (opened : Nat) : (fuel : Nat) → Str → Except Fault (Str × Str)
  | 0, _ => .error (.malformed .unterminatedString opened)
  | _, [] => .error (.malformed .unterminatedString opened)
  | fuel + 1, c :: s =>
    if c == '"' then .ok ([], s)
    else if c == '\\' then
      match s with
      | [] => .error (.malformed .unterminatedString opened)
      | d :: t =>
        if d == 'u' then do
          let (e, rest) ← readUnicodeEscape t
          let (text, after) ← readString opened fuel rest
          return (e :: text, after)
        else
          match simpleEscape? d with
          | none => .error (.malformed .invalidEscape (s.length + 1))
          | some e => do
            let (text, after) ← readString opened fuel t
            return (e :: text, after)
    else if c.toNat < 0x20 then .error (.malformed .controlCharacter (s.length + 1))
    else do
      let (text, after) ← readString opened fuel s
      return (c :: text, after)

/-- Reads a string after its opening quote. -/
def readQuoted (s : Str) : Except Fault (Str × Str) :=
  readString (s.length + 1) (s.length + 1) s

/-- The fraction digits after a decimal point at the start of a text, and what follows. -/
def readFraction (s : Str) : Str × Str :=
  match s with
  | .scalar '.' :: t =>
    if t.head?.any isDigit then (t.takeWhile isDigit, t.dropWhile isDigit) else ([], s)
  | _ => ([], s)

/-- The exponent at the start of a text, and what follows. -/
def readExponent (s : Str) : Option Int × Str :=
  match s with
  | c :: t =>
    if c == 'e' || c == 'E' then
      let (negative, digits) :=
        match t with
        | .scalar '-' :: u => (true, u)
        | .scalar '+' :: u => (false, u)
        | u => (false, u)
      if digits.head?.any isDigit then
        let n : Int := digitsValue (digits.takeWhile isDigit)
        (some (if negative then -n else n), digits.dropWhile isDigit)
      else (none, s)
    else (none, s)
  | [] => (none, s)

/-- The integer digits at the start of a text: a zero, or a run of digits without a leading zero. -/
def integerDigits (s : Str) : Str :=
  match s with
  | .scalar '0' :: _ => [.scalar '0']
  | _ => s.takeWhile isDigit

/-- Reads a number after its sign; `left` is the number of code points left where it starts. -/
def readNumber (left : Nat) (negative : Bool) (s : Str) : Except Fault (Value × Str) :=
  let whole := integerDigits s
  if whole.isEmpty then .error (.malformed .expectedValue left)
  else
    let (fraction, rest) := readFraction (s.drop whole.length)
    let (exponent, rest) := readExponent rest
    if fraction.isEmpty && exponent.isNone then
      if Text.digitLimit < whole.length then .error (.tooManyDigits ⟨whole.length⟩)
      else
        let n : Int := digitsValue whole
        .ok (.int (if negative then -n else n), rest)
    else
      .ok (.float (.ofDecimal negative (digitsValue (whole ++ fraction))
        (exponent.getD 0 - fraction.length)), rest)

/-- The values that are written as words. -/
def literals : List (String × Value) :=
  [("null", .null), ("true", .bool true), ("false", .bool false), ("NaN", .float .nan),
    ("Infinity", .float (.infinite false)), ("-Infinity", .float (.infinite true))]

/-- The value that is written as a word at the start of a text, and what follows. -/
def readLiteral? (s : Str) : Option (Value × Str) :=
  (literals.find? fun (word, _) => (Str.ofString word).isPrefixOf s).map fun (word, value) =>
    (value, s.drop word.length)

/-- Reads a value that is neither a string nor an array nor an object. -/
def readScalar (s : Str) : Except Fault (Value × Str) :=
  match readLiteral? s with
  | some reading => .ok reading
  | none =>
    match s with
    | .scalar '-' :: t => readNumber s.length true t
    | _ => readNumber s.length false s

mutual

/-- Reads a value, in at most `fuel` steps from value to item or member and back. -/
def readValue : (fuel : Nat) → Str → Except Fault (Value × Str)
  | 0, s => .error (.malformed .expectedValue s.length)
  | fuel + 1, s =>
    match s with
    | .scalar '"' :: t => do
      let (text, rest) ← readQuoted t
      return (.string text, rest)
    | .scalar '[' :: t =>
      match skipSpace t with
      | .scalar ']' :: rest => .ok (.array [], rest)
      | u => do
        let (items, rest) ← readItems fuel u
        return (.array items, rest)
    | .scalar '\x7b' :: t =>
      match skipSpace t with
      | .scalar '\x7d' :: rest => .ok (.object [], rest)
      | u => do
        let (members, rest) ← readMembers fuel u
        return (ofMembers members, rest)
    | _ => readScalar s

/-- Reads the items of an array up to its closing bracket. -/
def readItems : (fuel : Nat) → Str → Except Fault (List Value × Str)
  | 0, s => .error (.malformed .expectedValue s.length)
  | fuel + 1, s => do
    let (value, rest) ← readValue fuel s
    match skipSpace rest with
    | .scalar ']' :: after => return ([value], after)
    | .scalar ',' :: after =>
      let (values, after) ← readItems fuel (skipSpace after)
      return (value :: values, after)
    | u => throw (.malformed .expectedComma u.length)

/-- Reads the members of an object up to its closing brace. -/
def readMembers : (fuel : Nat) → Str → Except Fault (Members × Str)
  | 0, s => .error (.malformed .expectedName s.length)
  | fuel + 1, s =>
    match s with
    | .scalar '"' :: t => do
      let (name, rest) ← readQuoted t
      match skipSpace rest with
      | .scalar ':' :: u =>
        let (value, rest) ← readValue fuel (skipSpace u)
        match skipSpace rest with
        | .scalar '\x7d' :: after => return ([(name, value)], after)
        | .scalar ',' :: after =>
          let (members, after) ← readMembers fuel (skipSpace after)
          return ((name, value) :: members, after)
        | u => throw (.malformed .expectedComma u.length)
      | u => throw (.malformed .expectedColon u.length)
    | _ => .error (.malformed .expectedName s.length)

end

/-- Reads a text that is a single value with white space around it. -/
def readText (s : Str) : Except Fault Value := do
  let (value, rest) ← readValue (2 * s.length + 2) (skipSpace s)
  match skipSpace rest with
  | [] => return value
  | u => throw (.malformed .extraData u.length)

/-- The line and the column of a position in a text, both counted from one. -/
def lineAndColumn (s : Str) (position : Nat) : Nat × Nat :=
  let before := s.take position
  (before.count (.scalar '\n') + 1, (before.reverse.takeWhile (· != Point.scalar '\n')).length + 1)

/-- The wording of a fault in the text `s`. -/
def Fault.message (s : Str) : Fault → String
  | .malformed what left =>
    let position := s.length - left
    let (line, column) := lineAndColumn s position
    what.message ++ ": line " ++ toString line ++ " column " ++ toString column ++ " (char " ++
      toString position ++ ")"
  | .tooManyDigits t => t.message

end ProseCheck.Json
