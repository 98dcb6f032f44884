import ProseCheck.Markdown.Line

/-!
# Markers at the start of a line

The marks by which the content of a line shows what block it belongs to: list markers, fences,
thematic breaks, headings and the underlines of headings. Every reader takes the content of a line
after its indentation.
-/

namespace ProseCheck.Markdown

/-- Whether `c` is an ASCII digit. -/
def isAsciiDigit (c : Char) : Bool :=
  '0' ≤ c && c ≤ '9'

/-- The marker of a list item. -/
structure ListMarker where
  /-- The digits in front of the delimiter, none for a bullet. -/
  digits : List Char
  /-- The bullet, or the delimiter after the digits. -/
  symbol : Char
  deriving DecidableEq, Repr

namespace ListMarker

/-- Whether the marker numbers its item. -/
def isOrdered (m : ListMarker) : Bool :=
  !m.digits.isEmpty

/-- The number of characters of the marker. -/
def width (m : ListMarker) : Nat :=
  m.digits.length + 1

/-- The number of the item. -/
def value (m : ListMarker) : Nat :=
  m.digits.foldl (fun n c => n * 10 + (c.toNat - '0'.toNat)) 0

/-- Whether two markers can stand in the same list. -/
def continues (m first : ListMarker) : Bool :=
  m.isOrdered == first.isOrdered && m.symbol == first.symbol

/-- The list marker at the start of a text: a bullet, or one to nine digits and a delimiter,
followed by a space or the end. -/
def read? (s : List Char) : Option ListMarker :=
  let digits := s.takeWhile isAsciiDigit
  match s.dropWhile isAsciiDigit with
  | [] => none
  | symbol :: tail =>
    let symbols := if digits.isEmpty then ['*', '-', '+'] else [')', '.']
    if symbols.contains symbol && digits.length ≤ 9 && tail.head?.all isSpace then
      some { digits, symbol }
    else none

end ListMarker

/-- The opening of a fenced block of code. -/
structure Fence where
  /-- The character of the fence. -/
  symbol : Char
  /-- How many times it is repeated. -/
  width : Nat
  /-- What follows on the line. -/
  info : List Char
  deriving DecidableEq, Repr

namespace Fence

/-- The fence at the start of a text: three or more backquotes, with none later on the line, or
three or more tildes. -/
def read? (s : List Char) : Option Fence :=
  match s with
  | [] => none
  | symbol :: _ =>
    let run := s.takeWhile (· == symbol)
    let info := s.dropWhile (· == symbol)
    if symbol == '\x60' && 3 ≤ run.length && !info.contains symbol then
      some { symbol, width := run.length, info }
    else if symbol == '~' && 3 ≤ run.length then some { symbol, width := run.length, info }
    else none

/-- Whether a text closes the fence: at least as many of its characters, then spaces only. -/
def isClosedBy (f : Fence) (s : List Char) : Bool :=
  f.width ≤ (s.takeWhile (· == f.symbol)).length && (s.dropWhile (· == f.symbol)).all isSpace

end Fence

/-- Whether a text is a thematic break: three or more equal marks with spaces between them. -/
def isThematicBreak (s : List Char) : Bool :=
  match s with
  | [] => false
  | c :: _ =>
    ['*', '-', '_'].contains c && s.all (fun d => d == c || isSpace d) && 3 ≤ s.count c

/-- The depth of the heading that a text starts: one to six number signs before a space or the
end. -/
def headingDepth? (s : List Char) : Option Nat :=
  let depth := (s.takeWhile (· == '#')).length
  if 1 ≤ depth && depth ≤ 6 && (s.drop depth).head?.all isSpace then some depth else none

/-- Takes the characters with a property off the end of a text. -/
def dropEndWhile (p : Char → Bool) (s : List Char) : List Char :=
  (s.reverse.dropWhile p).reverse

/-- What a heading line says after its number signs, without spaces at the end and without the
closing number signs that follow a space. -/
def headingTitle (s : List Char) : List Char :=
  let title := dropEndWhile isSpace s
  let unclosed := dropEndWhile (· == '#') title
  if unclosed.getLast?.any isSpace then unclosed else title

/-- The depth of the heading that a text underlines: a run of `=` or `-`, then spaces only. -/
def underlineDepth? (s : List Char) : Option Nat :=
  match s with
  | [] => none
  | c :: _ =>
    if !(s.dropWhile (· == c)).all isSpace then none
    else if c == '=' then some 1
    else if c == '-' then some 2
    else none

end ProseCheck.Markdown
