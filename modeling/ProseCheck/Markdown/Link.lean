import ProseCheck.Markdown.Line
import ProseCheck.Markdown.Url

/-!
# Parts of links

The destination and the title of a link, and the definitions that links refer to by a label. A
definition may run over several lines; they are read one at a time, as far as they are needed.
-/

namespace ProseCheck.Markdown

open ProseCheck.Text

/-- The destination between angle brackets at the start of a text, after the opening bracket, and
what follows the closing one. A backslash takes the next character along. -/
def bracketedDestination? : List Char → Option (List Char × List Char)
  | [] => none
  | '\\' :: c :: s => (bracketedDestination? s).map fun (d, rest) => ('\\' :: c :: d, rest)
  | c :: s =>
    if c == '\n' || c == '<' then none
    else if c == '>' then some ([], s)
    else (bracketedDestination? s).map fun (d, rest) => (c :: d, rest)

/-- The destination without brackets at the start of a text, inside `level` parentheses, and what
follows it. It ends at a space, a control character or a parenthesis that it does not open itself,
and holds at most 32 nested parentheses. -/
def bareDestination? : (level : Nat) → List Char → Option (List Char × List Char)
  | level, [] => if level == 0 then some ([], []) else none
  | level, ['\\'] => if level == 0 then some (['\\'], []) else none
  | level, '\\' :: c :: s =>
    if c == ' ' then if level == 0 then some ([], '\\' :: c :: s) else none
    else (bareDestination? level s).map fun (d, rest) => ('\\' :: c :: d, rest)
  | level, c :: s =>
    if c.toNat ≤ 0x20 || c.toNat == 0x7F then if level == 0 then some ([], c :: s) else none
    else if c == '(' then
      if 32 ≤ level then none
      else (bareDestination? (level + 1) s).map fun (d, rest) => (c :: d, rest)
    else if c == ')' then
      if level == 0 then some ([], c :: s)
      else (bareDestination? (level - 1) s).map fun (d, rest) => (c :: d, rest)
    else (bareDestination? level s).map fun (d, rest) => (c :: d, rest)

/-- The destination at the start of a text, with escapes and references resolved, and what follows
it. Only a destination in brackets can be empty. -/
def destination? (s : List Char) : Option (List Char × List Char) :=
  match s with
  | '<' :: t => (bracketedDestination? t).map fun (d, rest) => (unescape d, rest)
  | _ =>
    match bareDestination? 0 s with
    | some ([], _) => none
    | some (d, rest) => some (unescape d, rest)
    | none => none

/-- What a text says about the title that it starts or continues. -/
inductive TitleScan where
  /-- There is no title. -/
  | absent
  /-- The title goes on after the text, in which it is `isEmpty` so far. -/
  | unfinished (isEmpty : Bool)
  /-- The title ends and leaves `rest`. -/
  | finished (isEmpty : Bool) (rest : List Char)
  deriving DecidableEq, Repr

/-- Reads on in a title that the character `mark` closes; `isEmpty` tells whether the title has no
character yet. -/
def continueTitle (mark : Char) : (isEmpty : Bool) → List Char → TitleScan
  | isEmpty, [] => .unfinished isEmpty
  | _, '\\' :: _ :: s => continueTitle mark false s
  | isEmpty, c :: s =>
    if c == mark then .finished isEmpty s
    else if c == '(' && mark == ')' then .absent
    else continueTitle mark false s

/-- The character that closes a title which starts with `c`. -/
def titleMark? (c : Char) : Option Char :=
  if c == '"' || c == '\x27' then some c else if c == '(' then some ')' else none

/-- The title at the start of a text. -/
def readTitle (s : List Char) : TitleScan :=
  match s with
  | [] => .absent
  | c :: t =>
    match titleMark? c with
    | some mark => continueTitle mark true t
    | none => .absent

/-- Labels are compared without regard to case and to the amount of white space. -/
def normalizeLabel (s : List Char) : List Char :=
  upper (lower (List.intercalate [' '] (words s)))

/-- A label and the address that links with this label lead to. -/
structure Definition where
  /-- The normalised label. -/
  label : List Char
  /-- The normalised address. -/
  address : List Char
  deriving DecidableEq, Repr

/-- The address that the first definition of a label gives. -/
def address? (definitions : List Definition) (label : List Char) : Option (List Char) :=
  (definitions.find? (·.label == normalizeLabel label)).map (·.address)

/-- A place in the lines of a definition: what is left of the lines read so far, the lines that can
still be read, and how many were read. -/
structure Cursor where
  rest : List Char
  later : List (List Char)
  read : Nat
  deriving Repr

namespace Cursor

/-- Reads the next line, if there is one, in place of `rest`. -/
def nextLine (cur : Cursor) : Cursor :=
  match cur.later with
  | [] => { cur with rest := [] }
  | l :: later => { rest := l, later, read := cur.read + 1 }

/-- Goes over a character: past the line feed at the end of a line it reads the next line. -/
def advance (cur : Cursor) : Cursor :=
  match cur.rest with
  | [] => cur
  | c :: s => if c == '\n' && s.isEmpty then cur.nextLine else { cur with rest := s }

/-- The number of characters at or after the place. -/
def size (cur : Cursor) : Nat :=
  cur.rest.length + cur.later.flatten.length

/-- Goes over spaces, tabs and line feeds, in at most `fuel` steps. -/
def skipBlanks : (fuel : Nat) → Cursor → Cursor
  | 0, cur => cur
  | fuel + 1, cur =>
    if cur.rest.head?.any (fun c => c == '\n' || isSpace c) then skipBlanks fuel cur.advance
    else cur

/-- The label up to its closing bracket, and the place after the bracket, in at most `fuel` steps.
A label holds no opening bracket; a backslash takes the next character along. -/
def readLabel? : (fuel : Nat) → Cursor → Option (List Char × Cursor)
  | 0, _ => none
  | fuel + 1, cur =>
    match cur.rest with
    | [] => none
    | '[' :: _ => none
    | ']' :: s => some ([], { cur with rest := s })
    | '\\' :: d :: _ =>
      (readLabel? fuel cur.advance.advance).map fun (label, after) => ('\\' :: d :: label, after)
    | c :: _ => (readLabel? fuel cur.advance).map fun (label, after) => (c :: label, after)

/-- Reads on in a title that the character `mark` closes, over as many of the lines `later` as it
takes: whether the title is empty, and the place after it. -/
def finishTitle? (mark : Char) : (later : List (List Char)) → (read : Nat) → TitleScan →
    Option (Bool × Cursor)
  | later, read, .finished isEmpty rest => some (isEmpty, { rest, later, read })
  | l :: later, read, .unfinished isEmpty =>
    finishTitle? mark later (read + 1) (continueTitle mark isEmpty l)
  | _, _, _ => none

/-- Reads the title at the place: whether it is empty, and the place after it. -/
def readTitle? (cur : Cursor) : Option (Bool × Cursor) := do
  let mark ← titleMark? (← cur.rest.head?)
  finishTitle? mark cur.later cur.read (readTitle cur.rest)

/-- Whether nothing but spaces is left on the line. -/
def atLineEnd (cur : Cursor) : Bool :=
  (cur.rest.dropWhile isSpace).head?.all (· == '\n')

end Cursor

/-- The definition that starts in `first` and may run on in the lines `later`, all of them after
their indentation and with their line feeds, and the number of lines that it takes. What stands
after the destination is its title only if the line ends after it. -/
def readDefinition? (first : List Char) (later : List (List Char)) : Option (Definition × Nat) := do
  let start : Cursor := { rest := first, later, read := 1 }
  let fuel := start.size + 1
  let '[' :: inner := first | none
  let (label, cur) ← Cursor.readLabel? fuel { start with rest := inner }
  let ':' :: tail := cur.rest | none
  let cur := Cursor.skipBlanks fuel { cur with rest := tail }
  let (destination, rest) ← destination? cur.rest
  let address := Url.normalize destination
  guard (Url.isAllowed address)
  let afterDestination := { cur with rest }
  let cur := Cursor.skipBlanks fuel afterDestination
  let spaced := rest.head?.any (fun c => c == '\n' || isSpace c)
  let titled := if spaced then cur.readTitle? else none
  let normalized := normalizeLabel label
  guard (!normalized.isEmpty)
  match titled with
  | some (isEmpty, after) =>
    if after.atLineEnd then return ({ label := normalized, address }, after.read)
    else if isEmpty then none
    else
      guard afterDestination.atLineEnd
      return ({ label := normalized, address }, afterDestination.read)
  | none =>
    guard afterDestination.atLineEnd
    return ({ label := normalized, address }, afterDestination.read)

end ProseCheck.Markdown
