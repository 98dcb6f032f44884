/-!
# Code points

A text that comes from outside is a list of code points. Besides characters it may have surrogates,
halves of a pair that stand alone: an escape in a JSON string can name one, and the name of a file
has one for each byte that is not UTF-8. Such a text can be compared, cut and joined like any other,
but it cannot be encoded.
-/

namespace ProseCheck

/-- A code point. -/
inductive Point where
  /-- A character. -/
  | scalar (c : Char)
  /-- A surrogate, by its number among the surrogates. -/
  | surrogate (half : Fin 0x800)
  deriving DecidableEq, Repr, Inhabited

/-- A text. -/
abbrev Str := List Point

namespace Point

/-- The number of the first surrogate. -/
def firstSurrogate : Nat := 0xD800

/-- The number of a code point. -/
def toNat : Point → Nat
  | scalar c => c.toNat
  | surrogate half => firstSurrogate + half

/-- The code point with the given number. -/
def ofNat (n : Nat) : Point :=
  if h : firstSurrogate ≤ n ∧ n < firstSurrogate + 0x800 then
    .surrogate ⟨n - firstSurrogate, by omega⟩
  else .scalar (Char.ofNat n)

/-- Whether a code point is a character with a property. -/
def has (property : Char → Bool) : Point → Bool
  | scalar c => property c
  | surrogate _ => false

/-- The character that a code point is, if it is one. -/
def char? : Point → Option Char
  | scalar c => some c
  | surrogate _ => none

/-- Whether a code point is a surrogate. -/
def isSurrogate : Point → Bool
  | scalar _ => false
  | surrogate _ => true

instance : Coe Char Point := ⟨scalar⟩

end Point

namespace Str

/-- The text of some characters. -/
def ofChars (chars : List Char) : Str :=
  chars.map .scalar

/-- The text of a string. -/
def ofString (s : String) : Str :=
  ofChars s.toList

instance : Coe String Str := ⟨ofString⟩

/-- The characters of a text, without its surrogates. -/
def scalars (s : Str) : List Char :=
  s.filterMap Point.char?

/-- A run of surrogates in a text: where it starts, how long it is, and the first surrogate. -/
structure Lone where
  start : Nat
  count : Nat
  half : Fin 0x800
  deriving DecidableEq, Repr

/-- The characters of a text that starts at a position, or its first run of surrogates. -/
def charsFrom : (position : Nat) → Str → Except Lone (List Char)
  | _, [] => .ok []
  | position, .scalar c :: s => (charsFrom (position + 1) s).map (c :: ·)
  | position, .surrogate half :: s =>
    .error ⟨position, (s.takeWhile Point.isSurrogate).length + 1, half⟩

/-- The characters of a text, or its first run of surrogates. -/
def chars (s : Str) : Except Lone (List Char) :=
  charsFrom 0 s

/-- The characters of a text without surrogates. -/
def chars? (s : Str) : Option (List Char) :=
  s.chars.toOption

/-- The first run of surrogates of a text. -/
def lone? (s : Str) : Option Lone :=
  match s.chars with
  | .ok _ => none
  | .error lone => some lone

end Str

end ProseCheck
