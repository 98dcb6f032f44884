import ProseCheck.Markdown.Delimiter
import ProseCheck.Markdown.Element
import ProseCheck.Markdown.Link
import Std.Data.HashMap

/-!
# Inline structure

What stands on the lines of a paragraph or a heading: prose, breaks, code, emphasis, links, images,
HTML and character references. The text is read from left to right. To find the end of a link label
the reader goes over the label piece by piece without output; it remembers how far each piece
reaches, and gives up where labels nest too deep.
-/

namespace ProseCheck.Markdown

open ProseCheck.Text

/-- A piece of inline structure in a flat sequence. -/
inductive Piece where
  /-- Prose. -/
  | text (s : List Char)
  /-- An element that contains no others. -/
  | leaf (e : Element)
  /-- The start of an element of the given type. -/
  | opening (type : String)
  /-- The end of the element that was started last. -/
  | closing
  deriving Repr, Inhabited

/-- Adds prose to a reversed list of elements; it is joined to prose in front of it. -/
def addText (s : List Char) : List Element → List Element
  | .mk .text start content children :: es =>
    .mk .text start (content ++ String.ofList s) children :: es
  | es => .mk .text none (String.ofList s) [] :: es

/-- The elements of a sequence of pieces, behind the reversed elements `done` of the innermost
element that is open and inside the open elements of the stack. -/
def assemble : List Piece → (done : List Element) → (stack : List (String × List Element)) →
    List Element
  | [], done, [] => done.reverse
  | [], done, (type, before) :: stack =>
    assemble [] (.mk (.other type) none "" done.reverse :: before) stack
  | .text s :: ps, done, stack => assemble ps (addText s done) stack
  | .leaf e :: ps, done, stack => assemble ps (e :: done) stack
  | .opening type :: ps, done, stack => assemble ps [] ((type, done) :: stack)
  | .closing :: ps, done, [] => assemble ps done []
  | .closing :: ps, done, (type, before) :: stack =>
    assemble ps (.mk (.other type) none "" done.reverse :: before) stack
  termination_by ps _ stack => (ps.length, stack.length)

/-- A text to be read, and the definitions its links can refer to. -/
structure InlineSource where
  chars : Array Char
  definitions : List Definition

namespace InlineSource

/-- The characters from `start` to before `stop`. -/
def slice (src : InlineSource) (start stop : Nat) : List Char :=
  (src.chars.extract start stop).toList

/-- The characters from `start` on. -/
def fromPos (src : InlineSource) (start : Nat) : List Char :=
  src.slice start src.chars.size

/-- Whether the character at `pos` is `c`. -/
def isAt (src : InlineSource) (pos : Nat) (c : Char) : Bool :=
  src.chars[pos]? == some c

/-- The first position from `pos` on, before `stop`, whose character is not in the class, at most
`fuel` positions away. -/
def skipUpTo (src : InlineSource) (p : Char → Bool) (stop : Nat) : (fuel pos : Nat) → Nat
  | 0, pos => pos
  | fuel + 1, pos =>
    if pos < stop && (src.chars[pos]?).any p then skipUpTo src p stop fuel (pos + 1) else pos

/-- The first position from `pos` on, before `stop`, whose character is not in the class. -/
def skipWhile (src : InlineSource) (p : Char → Bool) (stop pos : Nat) : Nat :=
  src.skipUpTo p stop (stop - pos) pos

end InlineSource

/-- What the reader remembers: how far the piece at a position reaches, and where the runs of
backquotes of each length stand that no code ends with. -/
structure Memory where
  reaches : Std.HashMap Nat Nat
  ticks : Std.HashMap Nat Nat
  ticksKnown : Bool

/-- What a run of backquotes starts. -/
inductive TickRun where
  /-- Nothing. -/
  | literal (stop : Nat)
  /-- Code up to the position `content`, with a closing run up to `stop`. -/
  | code (content stop : Nat)

/-- Searches the run of `width` backquotes that ends the code, from position `pos` on, in at most
`fuel` runs. -/
def findTicks (src : InlineSource) (stop width : Nat) : (fuel pos : Nat) → Memory →
    Option (Nat × Nat) × Memory
  | 0, _, memory => (none, { memory with ticksKnown := true })
  | fuel + 1, pos, memory =>
    let start := src.skipWhile (· != '\x60') src.chars.size pos
    if src.chars.size ≤ start then (none, { memory with ticksKnown := true })
    else
      let after := src.skipWhile (· == '\x60') stop (start + 1)
      if after - start == width then (some (start, after), memory)
      else
        findTicks src stop width fuel after
          { memory with ticks := memory.ticks.insert (after - start) start }

/-- What the run of backquotes at `pos` starts. -/
def readTicks (src : InlineSource) (stop pos : Nat) (memory : Memory) : TickRun × Memory :=
  let after := src.skipWhile (· == '\x60') stop pos
  let width := after - pos
  if memory.ticksKnown && memory.ticks.getD width 0 ≤ pos then (.literal after, memory)
  else
    match findTicks src stop width (src.chars.size + 1) after memory with
    | (some (content, stop), memory) => (.code content stop, memory)
    | (none, memory) => (.literal after, memory)

/-- A text of code with spaces for its line feeds, and with one space taken off either end if there
is one at both. A text of nothing but blanks stays as it is. -/
def codeText (s : List Char) : List Char :=
  let s := s.map fun c => if c == '\n' then ' ' else c
  if s.head? == some ' ' && s.getLast? == some ' ' && !s.all isBlank then s.tail.dropLast else s

/-- How far the piece at a position reaches before the end of the text, read without output. -/
abbrev Skipper := (stop pos : Nat) → Memory → Nat × Memory

/-- The position of the bracket that closes a label, with `level` brackets open at `pos`, in at most
`fuel` pieces. If `single`, a label that contains a link is none. -/
def labelEnd? (src : InlineSource) (skip : Skipper) (single : Bool) (stop : Nat) :
    (fuel level pos : Nat) → Memory → Option Nat × Memory
  | 0, _, _, memory => (none, memory)
  | fuel + 1, level, pos, memory =>
    if stop ≤ pos then (none, memory)
    else if src.isAt pos ']' && level == 1 then (some pos, memory)
    else
      let level := if src.isAt pos ']' then level - 1 else level
      let (next, memory) := skip stop pos memory
      if src.isAt pos '[' then
        if next == pos + 1 then labelEnd? src skip single stop fuel (level + 1) next memory
        else if single then (none, memory)
        else labelEnd? src skip single stop fuel level next memory
      else labelEnd? src skip single stop fuel level next memory

/-- Where the label that starts at the bracket `pos` ends. -/
def findLabel? (src : InlineSource) (skip : Skipper) (single : Bool) (stop pos : Nat)
    (memory : Memory) : Option Nat × Memory :=
  labelEnd? src skip single stop (stop - pos) 1 (pos + 1) memory

/-- Whether `c` is white space inside the parentheses of a link. -/
def isLinkSpace (c : Char) : Bool :=
  isSpace c || c == '\n'

/-- The address in the parentheses of a link, from after the opening one, and the position at which
the closing one is expected. An address that is not allowed is none. -/
def target? (src : InlineSource) (stop pos : Nat) : Option (List Char × Nat) :=
  match (src.slice pos stop).dropWhile isLinkSpace with
  | [] => none
  | c :: s =>
    match destination? (c :: s) with
    | none => some ([], stop - (c :: s).length)
    | some (destination, rest) =>
      let address := Url.normalize destination
      let (address, rest) := if Url.isAllowed address then (address, rest) else ([], c :: s)
      let next := rest.dropWhile isLinkSpace
      let next :=
        if next.length < rest.length then
          match readTitle next with
          | .finished _ after => after.dropWhile isLinkSpace
          | _ => next
        else next
      some (address, stop - next.length)

/-- The address of the definition that a label refers to. The label `label` ends at `close`; another
label may follow at `pos` and is used instead unless it is empty. The result has the position after
the reference. -/
def reference? (src : InlineSource) (skip : Skipper) (stop : Nat) (label : List Char)
    (close pos : Nat) (memory : Memory) : Option (List Char × Nat) × Memory :=
  if src.definitions.isEmpty then (none, memory)
  else
    let (second, memory) :=
      if pos < stop && src.isAt pos '[' then findLabel? src skip false stop pos memory
      else (none, memory)
    let (name, next) :=
      match second with
      | some last => (src.slice (pos + 1) last, last + 1)
      | none => ([], close + 1)
    ((address? src.definitions (if name.isEmpty then label else name)).map (·, next), memory)

/-- A link or an image: its label, its address, and the position after it. -/
structure LinkSpan where
  labelStart : Nat
  labelStop : Nat
  address : List Char
  next : Nat

/-- The link that starts at the bracket `pos`. If what follows the label in parentheses is no
target, the label may still refer to a definition. -/
def link? (src : InlineSource) (skip : Skipper) (stop pos : Nat) (memory : Memory) :
    Option LinkSpan × Memory :=
  match findLabel? src skip true stop pos memory with
  | (none, memory) => (none, memory)
  | (some close, memory) =>
    let span (address : List Char) (next : Nat) : LinkSpan :=
      { labelStart := pos + 1, labelStop := close, address, next }
    let refer (position : Nat) :=
      let (found, memory) :=
        reference? src skip stop (src.slice (pos + 1) close) close position memory
      (found.map fun (address, next) => span address next, memory)
    if close + 1 < stop && src.isAt (close + 1) '(' then
      match target? src stop (close + 2) with
      | none => (none, memory)
      | some (address, last) =>
        if last < stop && src.isAt last ')' then (some (span address (last + 1)), memory)
        else refer (last + 1)
    else refer (close + 1)

/-- The image that starts at the exclamation mark `pos`. -/
def image? (src : InlineSource) (skip : Skipper) (stop pos : Nat) (memory : Memory) :
    Option LinkSpan × Memory :=
  if pos + 1 < stop && !src.isAt (pos + 1) '[' then (none, memory)
  else
    match findLabel? src skip false stop (pos + 1) memory with
    | (none, memory) => (none, memory)
    | (some close, memory) =>
      let span (address : List Char) (next : Nat) : LinkSpan :=
        { labelStart := pos + 2, labelStop := close, address, next }
      if close + 1 < stop && src.isAt (close + 1) '(' then
        match target? src stop (close + 2) with
        | none => (none, memory)
        | some (address, last) =>
          if last < stop && src.isAt last ')' then (some (span address (last + 1)), memory)
          else (none, memory)
      else
        let (found, memory) :=
          reference? src skip stop (src.slice (pos + 2) close) close (close + 1) memory
        (found.map fun (address, next) => span address next, memory)

/-- Whether `c` may stand in a scheme after its first letter. -/
def isSchemeChar (c : Char) : Bool :=
  isAsciiAlphanumeric c || c == '+' || c == '.' || c == '-'

/-- The scheme and the rest of an address between angle brackets. -/
def addressPattern : Pattern :=
  .sequence [.one isAsciiLetter,
    .both (.one isSchemeChar) (.upTo (.one isSchemeChar) 30), .char ':',
    .many (.one fun c => 0x20 < c.toNat && c != '<' && c != '>')]

/-- A part of a mail domain between points. -/
def domainLabel : Pattern :=
  .both (.one isAsciiAlphanumeric)
    (.maybe (.both (.upTo (.one fun c => isAsciiAlphanumeric c || c == '-') 61)
      (.one isAsciiAlphanumeric)))

/-- A mail address between angle brackets. -/
def mailPattern : Pattern :=
  .sequence [
    .oneOrMore (.one fun c =>
      isAsciiAlphanumeric c || ".!#$%&'*+/=?^_`\x7b|\x7d~-".toList.contains c),
    .char '@', domainLabel, .many (.both (.char '.') domainLabel)]

/-- Whether a pattern matches a text up to its end, or up to a line feed at its end. -/
def matchesLine (p : Pattern) (s : List Char) : Bool :=
  (p.ends s).any fun rest => rest == [] || rest == ['\n']

/-- The text of the automatic link at the angle bracket `pos`, and the position after it. -/
def autolink? (src : InlineSource) (stop pos : Nat) : Option (List Char × Nat) :=
  let close := src.skipWhile (fun c => c != '<' && c != '>') stop (pos + 1)
  if stop ≤ close || !src.isAt close '>' then none
  else
    let s := src.slice (pos + 1) close
    if matchesLine addressPattern s then
      if Url.isAllowed (Url.normalize s) then some (Url.display s, close + 1) else none
    else if matchesLine mailPattern s then
      if Url.isAllowed (Url.normalize ("mailto:".toList ++ s)) then some (Url.display s, close + 1)
      else none
    else none

/-- The position after the piece of HTML at the angle bracket `pos`. -/
def html? (src : InlineSource) (stop pos : Nat) : Option Nat :=
  if stop ≤ pos + 2 then none
  else if (src.chars[pos + 1]?).any fun c =>
      c == '!' || c == '?' || c == '/' || isAsciiLetter c then
    (Html.piece? (src.fromPos pos)).map fun rest => src.chars.size - rest.length
  else none

/-- The characters that a reference at the ampersand `pos` stands for, and the position after it. -/
def characterReference? (src : InlineSource) (stop pos : Nat) : Option (List Char × Nat) :=
  if stop ≤ pos + 1 then none
  else
    (proseReference? (src.fromPos (pos + 1))).map fun (cs, rest) =>
      (cs, src.chars.size - rest.length)

/-- How far the piece at `pos` reaches; `deeper` reads the labels in it. -/
def skipPiece (src : InlineSource) (deeper : Skipper) : Skipper := fun stop pos memory =>
  match src.chars[pos]? with
  | some '\n' => (src.skipWhile isSpace stop (pos + 1), memory)
  | some '\\' =>
    if stop ≤ pos + 1 then (pos + 1, memory)
    else if src.isAt (pos + 1) '\n' then (src.skipWhile isSpace stop (pos + 2), memory)
    else (pos + 2, memory)
  | some '\x60' =>
    match readTicks src stop pos memory with
    | (.literal next, memory) => (next, memory)
    | (.code _ next, memory) => (next, memory)
  | some '[' =>
    let (found, memory) := link? src deeper stop pos memory
    (found.elim (pos + 1) (·.next), memory)
  | some '!' =>
    let (found, memory) := image? src deeper stop pos memory
    (found.elim (pos + 1) (·.next), memory)
  | some '<' =>
    (((autolink? src stop pos).map (·.2) <|> html? src stop pos).getD (pos + 1), memory)
  | some '&' => (((characterReference? src stop pos).map (·.2)).getD (pos + 1), memory)
  | _ => (pos + 1, memory)

/-- How far the piece at a position reaches, with labels nested up to `depth` levels. Beyond that
the whole text counts as one piece. What was found once is remembered. -/
def skipper (src : InlineSource) : (depth : Nat) → Skipper
  | depth, stop, pos, memory =>
    match memory.reaches[pos]? with
    | some next => (next, memory)
    | none =>
      let (next, memory) :=
        match depth with
        | 0 => (stop + 1, memory)
        | depth + 1 => skipPiece src (skipper src depth) stop pos memory
      (next, { memory with reaches := memory.reaches.insert pos next })

/-- The output of the reader: the pieces so far, the prose after them in reverse, and the emphasis
marks of the innermost element that is open. -/
structure Scan where
  pieces : Array Piece
  pending : List Char
  marks : Array Delimiter
  memory : Memory

namespace Scan

/-- Makes a piece of the prose at the end. -/
def flush (st : Scan) : Scan :=
  if st.pending.isEmpty then st
  else { st with pieces := st.pieces.push (.text st.pending.reverse), pending := [] }

/-- Adds a piece. -/
def push (st : Scan) (p : Piece) : Scan :=
  let st := st.flush
  { st with pieces := st.pieces.push p }

/-- Adds an element that contains no others. -/
def pushLeaf (st : Scan) (role : Role) (content : List Char) : Scan :=
  st.push (.leaf (.mk role none (String.ofList content) []))

/-- Adds prose. -/
def write (st : Scan) (s : List Char) : Scan :=
  { st with pending := s.reverse ++ st.pending }

/-- Adds the end of a source line: two spaces or more in front of it ask for a line break. -/
def breakLine (st : Scan) : Scan :=
  match st.pending with
  | ' ' :: ' ' :: before =>
    { st with pending := before.dropWhile (· == ' ') }.pushLeaf .hardBreak []
  | ' ' :: before => { st with pending := before }.pushLeaf .softBreak []
  | _ => st.pushLeaf .softBreak []

/-- Adds the marks of a run of `width` times the character `c`, each as a piece of its own. -/
def pushMarks (c : Char) (width : Nat) (opens closes : Bool) : (count : Nat) → Scan → Scan
  | 0, st => st
  | count + 1, st =>
    let st := st.push (.text [c])
    let mark : Delimiter :=
      { mark := c, runLength := width, place := st.pieces.size - 1, opens, closes, closer := none }
    pushMarks c width opens closes count { st with marks := st.marks.push mark }

/-- Replaces the pieces at the marks of an emphasis by its start and its end. -/
def emphasize (pieces : Array Piece) (e : Emphasis) : Array Piece :=
  let pieces := pieces.setIfInBounds e.opening (.opening (if e.isStrong then "strong" else "em"))
  let pieces := pieces.setIfInBounds e.closing .closing
  if e.isStrong then
    (pieces.setIfInBounds (e.opening - 1) (.text [])).setIfInBounds (e.closing + 1) (.text [])
  else pieces

/-- Finds the emphasis among the marks. -/
def closeMarks (st : Scan) : Scan :=
  let marks := pairMarks st.marks
  { st with pieces := (emphases marks marks.size).foldl emphasize st.pieces, marks := #[] }

end Scan

/-- A reader of the text up to `stop` from `pos` on. -/
abbrev InlineReader := (stop pos : Nat) → Scan → Scan

/-- Reads the piece at `pos`: the position after it and the output. The labels of links are read by
`inside` and skipped by `skip`. -/
def readPiece (src : InlineSource) (skip : Skipper) (inside : InlineReader) (stop pos : Nat)
    (st : Scan) (c : Char) : Nat × Scan :=
  let literal := (pos + 1, st.write [c])
  match c with
  | '\n' => (src.skipWhile isSpace stop (pos + 1), st.breakLine)
  | '\\' =>
    match src.chars[pos + 1]? with
    | some d =>
      if stop ≤ pos + 1 then literal
      else if d == '\n' then
        (src.skipWhile isSpace stop (pos + 2), st.pushLeaf .hardBreak [])
      else (pos + 2, st.push (.text (if isAsciiPunctuation d then [d] else [c, d])))
    | none => literal
  | '\x60' =>
    match readTicks src stop pos st.memory with
    | (.literal next, memory) => (next, { st with memory }.write (src.slice pos next))
    | (.code content next, memory) =>
      let start := src.skipWhile (· == c) stop pos
      (next, { st with memory }.pushLeaf .codeSpan (codeText (src.slice start content)))
  | '*' | '_' =>
    let next := src.skipWhile (· == c) stop pos
    let before := if pos == 0 then ' ' else src.chars.getD (pos - 1) ' '
    let after := if next < stop then src.chars.getD next ' ' else ' '
    let (opens, closes) := flanking c before after
    (next, st.pushMarks c (next - pos) opens closes (next - pos))
  | '[' =>
    match link? src skip stop pos st.memory with
    | (some span, memory) =>
      let outer := st.marks
      let st := { st with memory }.push (.opening "link")
      let st := (inside span.labelStop span.labelStart { st with marks := #[] }).closeMarks
      (span.next, { st.push .closing with marks := outer })
    | (none, memory) => (pos + 1, { st with memory }.write [c])
  | '!' =>
    match image? src skip stop pos st.memory with
    | (some span, memory) =>
      (span.next, { st with memory }.pushLeaf (.image (String.ofList span.address))
        (src.slice span.labelStart span.labelStop))
    | (none, memory) => (pos + 1, { st with memory }.write [c])
  | '<' =>
    match autolink? src stop pos with
    | some (text, next) => (next, ((st.push (.opening "link")).push (.text text)).push .closing)
    | none =>
      match html? src stop pos with
      | some next => (next, st.pushLeaf .htmlSpan (src.slice pos next))
      | none => literal
  | '&' =>
    match characterReference? src stop pos with
    | some (ds, next) => (next, st.push (.text ds))
    | none => literal
  | _ => literal

/-- Reads a text piece by piece, in at most `fuel` pieces. -/
def readPieces (src : InlineSource) (skip : Skipper) (inside : InlineReader) (stop : Nat) :
    (fuel pos : Nat) → Scan → Scan
  | 0, _, st => st.flush
  | fuel + 1, pos, st =>
    if stop ≤ pos then st.flush
    else
      match src.chars[pos]? with
      | none => st.flush
      | some c =>
        let (next, st) := readPiece src skip inside stop pos st c
        readPieces src skip inside stop fuel next st

/-- The reader of a text in which links may still nest `depth` levels deep; below that all is
prose. -/
def inlineReader (src : InlineSource) : (depth : Nat) → InlineReader
  | 0 => fun stop pos st => (st.write (src.slice pos stop)).flush
  | depth + 1 => fun stop pos st =>
    readPieces src (skipper src (depth + 1)) (inlineReader src depth) stop (stop - pos) pos st

/-- The elements of a text. -/
def inlineElements (depth : Nat) (definitions : List Definition) (text : String) : List Element :=
  let src : InlineSource := { chars := text.toList.toArray, definitions }
  let memory : Memory := { reaches := ∅, ticks := ∅, ticksKnown := false }
  let st := inlineReader src depth src.chars.size 0
    { pieces := #[], pending := [], marks := #[], memory }
  assemble st.closeMarks.pieces.toList [] []

end ProseCheck.Markdown
