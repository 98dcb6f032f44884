import ProseCheck.Text.Point
import ProseCheck.Text.Printable

/-!
# Quoted texts

A text between quotes for a message. The quotes are single ones unless the text contains single
quotes and no double ones. Backslashes, the quote, surrogates and characters that are not printable
are escaped.
-/

namespace ProseCheck.Text

/-- The `width` last hexadecimal digits of a number. -/
def hexDigits (width n : Nat) : List Char :=
  let digits := Nat.toDigits 16 n
  List.replicate (width - digits.length) '0' ++ digits

/-- A character of a text between the given quotes. -/
def quoteChar (quote c : Char) : List Char :=
  if c == quote || c == '\\' then ['\\', c]
  else if c == '\n' then ['\\', 'n']
  else if c == '\r' then ['\\', 'r']
  else if c == '\t' then ['\\', 't']
  else if isPrintable c then [c]
  else if c.toNat ≤ 0xFF then '\\' :: 'x' :: hexDigits 2 c.toNat
  else if c.toNat ≤ 0xFFFF then '\\' :: 'u' :: hexDigits 4 c.toNat
  else '\\' :: 'U' :: hexDigits 8 c.toNat

/-- The escape of a surrogate. -/
def surrogateEscape (half : Fin 0x800) : List Char :=
  '\\' :: 'u' :: hexDigits 4 (Point.surrogate half).toNat

/-- A code point of a text between the given quotes. -/
def quotePoint (quote : Char) : Point → List Char
  | .scalar c => quoteChar quote c
  | .surrogate half => surrogateEscape half

/-- The text between quotes. -/
def quoted (s : Str) : String :=
  let quote := if s.contains (.scalar '\x27') && !s.contains (.scalar '"') then '"' else '\x27'
  String.ofList (quote :: s.flatMap (quotePoint quote) ++ [quote])

/-- The text with its surrogates escaped. -/
def escaped (s : Str) : String :=
  String.ofList (s.flatMap fun
    | .scalar c => [c]
    | .surrogate half => surrogateEscape half)

/-- The wording for a text that cannot be encoded for its surrogates. -/
def unencodableMessage (lone : Str.Lone) : String :=
  let place :=
    if lone.count == 1 then
      "character '" ++ String.ofList (surrogateEscape lone.half) ++ "' in position " ++
        toString lone.start
    else
      "characters in position " ++ toString lone.start ++ "-" ++
        toString (lone.start + lone.count - 1)
  "'utf-8' codec can't encode " ++ place ++ ": surrogates not allowed"

end ProseCheck.Text
