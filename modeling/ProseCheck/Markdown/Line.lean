/-!
# Source lines

A source is read line by line. A line remembers how much of it is indentation, as a number of
characters and as a column with tab stops at multiples of four; the markers of an enclosing
quotation are cut off, and the marker of an enclosing list item counts as indentation.
-/

namespace ProseCheck.Markdown

/-- Whether `c` is a space or a tab. -/
def isSpace (c : Char) : Bool :=
  c == ' ' || c == '\t'

/-- The column after a character of indentation at column `column`; `base` shifts the tab stops. -/
def nextColumn (base column : Nat) (c : Char) : Nat :=
  if c == '\t' then column + (4 - (column + base) % 4) else column + 1

/-- The column after the spaces and tabs at the start of a text. -/
def columnAfter (base column : Nat) : List Char → Nat
  | [] => column
  | c :: s => if isSpace c then columnAfter base (nextColumn base column c) s else column

/-- A source line as the block structure sees it. -/
structure Line where
  /-- The number of the line, counted from zero. -/
  number : Nat
  /-- The characters of the line after the markers of the quotations around it. -/
  body : List Char
  /-- How many of these characters count as indentation. -/
  shift : Nat
  /-- The column at which the content starts. A line that continues the paragraph of a quotation
  without its marker stands at column `-1`. -/
  indent : Int
  /-- The column of the first character of `body`, by which tab stops are shifted. -/
  base : Nat
  /-- Whether a line feed ends the line. Only the last line of a source can do without. -/
  ended : Bool
  deriving DecidableEq, Repr, Inhabited

namespace Line

/-- The content of the line after its indentation. -/
def rest (l : Line) : List Char :=
  l.body.drop l.shift

/-- Whether the line has no content. -/
def isEmpty (l : Line) : Bool :=
  l.rest.isEmpty

/-- A line of the source, outside of any list or quotation. -/
def ofChars (number : Nat) (body : List Char) (ended : Bool) : Line :=
  { number, body, shift := (body.takeWhile isSpace).length, indent := columnAfter 0 0 body,
    base := 0, ended }

/-- The content of the line with its line feed. -/
def restEnded (l : Line) : List Char :=
  l.rest ++ if l.ended then ['\n'] else []

/-- Takes characters off the indentation of a line up to the column `indent`. The text is what the
line still holds, `masked` the number of its characters that count as indentation whatever they are.
The result is the rest of the text with the columns by which a tab reached too far, or nothing if
the whole text was taken before the column was reached. -/
def dropColumns (base indent : Nat) : (column masked : Nat) → List Char → Option (Nat × List Char)
  | column, _, [] => if indent ≤ column then some (column - indent, []) else none
  | column, masked, c :: s =>
    if indent ≤ column then some (column - indent, c :: s)
    else if isSpace c then dropColumns base indent (nextColumn base column c) (masked - 1) s
    else if 0 < masked then dropColumns base indent (column + 1) (masked - 1) s
    else some (0, c :: s)

/-- The text of the line without `indent` columns of indentation, and with its line feed if
`feed`. A line that the source leaves without a line feed has no such text when it is asked for one
and ends inside the indentation. -/
def cut? (l : Line) (indent : Nat) (feed : Bool) : Option (List Char) :=
  let tail := if feed && l.ended then ['\n'] else []
  match dropColumns l.base indent 0 l.shift l.body with
  | some (spaces, s) => some (List.replicate spaces ' ' ++ s ++ tail)
  | none => if feed && !l.ended then none else some tail

end Line

/-- Reads the line ends `\r\n` and `\r` as line feeds and replaces the null character. -/
def normalizeSource : List Char → List Char
  | [] => []
  | '\r' :: '\n' :: s => '\n' :: normalizeSource s
  | c :: s =>
    (if c == '\r' then '\n' else if c == '\x00' then Char.ofNat 0xFFFD else c) :: normalizeSource s

/-- Cuts a text at its line feeds; the last part has none. -/
def splitLines : List Char → List (List Char)
  | [] => [[]]
  | c :: s =>
    if c == '\n' then [] :: splitLines s
    else
      match splitLines s with
      | [] => [[c]]
      | l :: ls => (c :: l) :: ls

/-- Numbers the parts of a source as lines. What follows the last line feed is a line only if there
is more to it than spaces and tabs. -/
def numberLines : (number : Nat) → List (List Char) → List Line
  | _, [] => []
  | number, [s] => if s.all isSpace then [] else [Line.ofChars number s false]
  | number, s :: ss => Line.ofChars number s true :: numberLines (number + 1) ss

/-- The lines of a source. -/
def sourceLines (source : List Char) : List Line :=
  numberLines 0 (splitLines (normalizeSource source))

/-- The joined texts of lines without `indent` columns of indentation. All lines but the last keep
their line feed, the last one if `feed`. -/
def cutLines? (indent : Nat) (feed : Bool) : List Line → Option (List Char)
  | [] => some []
  | [l] => l.cut? indent feed
  | l :: ls => do return (← l.cut? indent true) ++ (← cutLines? indent feed ls)

end ProseCheck.Markdown
