import ProseCheck.Decimal.Shortest
import ProseCheck.Json.Value
import ProseCheck.Text.Integer

/-!
# Writing JSON

Values are written over several lines with two spaces of indentation a level; empty arrays and
objects stay on one line. Only quotes, backslashes and control characters are escaped, and a
surrogate stands for itself.
-/

namespace ProseCheck.Json

/-- The hexadecimal digit with the value `n`, below 16. -/
def hexDigit (n : Nat) : Char :=
  if n < 10 then Char.ofNat ('0'.toNat + n) else Char.ofNat ('a'.toNat + (n - 10))

/-- A character as it stands in a string. -/
def escapeChar (c : Char) : List Char :=
  if c == '"' then ['\\', '"']
  else if c == '\\' then ['\\', '\\']
  else if c == '\x08' then ['\\', 'b']
  else if c == '\x0c' then ['\\', 'f']
  else if c == '\n' then ['\\', 'n']
  else if c == '\r' then ['\\', 'r']
  else if c == '\t' then ['\\', 't']
  else if c.toNat < 0x20 then
    ['\\', 'u', '0', '0', hexDigit (c.toNat / 16), hexDigit (c.toNat % 16)]
  else [c]

/-- A code point as it stands in a string. -/
def escapePoint : Point → Str
  | .scalar c => .ofChars (escapeChar c)
  | .surrogate half => [.surrogate half]

/-- A string between quotes. -/
def writeString (s : Str) : Str :=
  .scalar '"' :: s.flatMap escapePoint ++ [.scalar '"']

/-- A line feed and the indentation of a level. -/
def newLine (level : Nat) : Str :=
  .scalar '\n' :: List.replicate (2 * level) (.scalar ' ')

/-- Joins parts with commas, each part on a line of its own. -/
def joinParts (level : Nat) : List Str → Str
  | [] => []
  | [p] => newLine level ++ p
  | p :: ps => newLine level ++ p ++ .scalar ',' :: joinParts level ps

mutual

/-- Writes a value at a level of nesting. -/
def writeValue (level : Nat) : Value → Str
  | .null => "null"
  | .bool b => if b then "true" else "false"
  | .int n => .ofChars (Text.writeInteger n)
  | .float x => Decimal.standardLayout.write x
  | .string s => writeString s
  | .array [] => "[]"
  | .array items => .scalar '[' :: joinParts (level + 1) (writeItems (level + 1) items) ++
      newLine level ++ [.scalar ']']
  | .object [] => "\x7b\x7d"
  | .object members => .scalar '\x7b' :: joinParts (level + 1) (writeMembers (level + 1) members) ++
      newLine level ++ [.scalar '\x7d']

/-- Writes the items of an array. -/
def writeItems (level : Nat) : List Value → List Str
  | [] => []
  | v :: vs => writeValue level v :: writeItems level vs

/-- Writes the members of an object. -/
def writeMembers (level : Nat) : Members → List Str
  | [] => []
  | (name, v) :: ms => (writeString name ++ ": " ++ writeValue level v) :: writeMembers level ms

end

/-- The text of a value. -/
def render (v : Value) : Str :=
  writeValue 0 v

end ProseCheck.Json
