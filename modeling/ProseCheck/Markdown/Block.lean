import ProseCheck.Markdown.Element
import ProseCheck.Markdown.Link
import ProseCheck.Markdown.Marker
import ProseCheck.Text.Blank

/-!
# Block structure

The blocks of a source: quotations, lists, code, HTML, headings and paragraphs, and the definitions
of link labels among them. A reader takes the lines that are left and returns the blocks it found
with the lines it did not use. Quotations and list items are read by the same reader on their own
lines; how deep they may nest is bounded, and what lies deeper is passed over.
-/

namespace ProseCheck.Markdown

open ProseCheck.Text

/-- The place of the lines that are read: the column at which their blocks start, and the column of
the list around the innermost list item. -/
structure Context where
  indent : Nat
  listIndent : Option Nat
  deriving DecidableEq, Repr

/-- A source that cannot be read: a block of HTML whose last line the source leaves without a line
feed inside the indentation of a list item. -/
inductive Fault where
  | cutShort
  deriving DecidableEq, Repr

/-- What a reader found: blocks, definitions, and the lines that it leaves. -/
structure Blocks where
  elements : List Element
  definitions : List Definition
  rest : List Line
  deriving Repr

/-- A reader of the blocks in a list of lines. -/
abbrev BlockReader := Context → List Line → Except Fault Blocks

namespace Context

/-- Whether a line is indented so far that it can only be code. -/
def isCode (ctx : Context) (l : Line) : Bool :=
  4 ≤ l.indent - ctx.indent

/-- Whether a line is indented less than the blocks that are read. -/
def isOutside (ctx : Context) (l : Line) : Bool :=
  l.indent < ctx.indent

/-- The marker of the list item that a line starts. A line between two nested lists can be too far
from the outer one to belong to either. -/
def listMarker? (ctx : Context) (l : Line) : Option ListMarker :=
  if ctx.isCode l then none
  else if ctx.listIndent.any (fun i => 4 ≤ l.indent - i) && ctx.isOutside l then none
  else ListMarker.read? l.rest

/-- Whether a line starts a list that can interrupt the block before it. A list that interrupts a
paragraph starts with a text, and with the number one if it is numbered. -/
def startsList (ctx : Context) (inParagraph : Bool) (l : Line) : Bool :=
  match ctx.listMarker? l with
  | none => false
  | some m =>
    !(inParagraph && !ctx.isOutside l) ||
      ((!m.isOrdered || m.value == 1) && !(l.rest.drop m.width).all isSpace)

/-- Whether a line starts a block that ends a list: a fence, a quotation or a thematic break. -/
def endsList (ctx : Context) (l : Line) : Bool :=
  !ctx.isCode l &&
    ((Fence.read? l.rest).isSome || l.rest.head? == some '>' || isThematicBreak l.rest)

/-- Whether a line starts a block that interrupts the paragraph, definition or quotation before
it. -/
def interrupts (ctx : Context) (inParagraph : Bool) (l : Line) : Bool :=
  ctx.endsList l || ctx.startsList inParagraph l ||
    (!ctx.isCode l &&
      ((Html.blockStart? l.rest).any (·.interrupts) || (headingDepth? l.rest).isSome))

/-- Whether a line continues the paragraph, or the definition, before it. -/
def continues (ctx : Context) (inParagraph : Bool) (l : Line) : Bool :=
  !l.isEmpty && (ctx.isCode l || l.indent < 0 || !ctx.interrupts inParagraph l)

/-- The depth of the heading that a line underlines, and the number of lines above it. -/
def underline? (ctx : Context) : (above : Nat) → List Line → Option (Nat × Nat)
  | _, [] => none
  | above, l :: ls =>
    if l.isEmpty then none
    else if !ctx.isCode l && !ctx.isOutside l && (underlineDepth? l.rest).isSome then
      (underlineDepth? l.rest).map fun depth => (depth, above)
    else if ctx.continues true l then ctx.underline? (above + 1) ls
    else none

end Context

/-- The text of lines as the content of a heading or a paragraph. -/
def inlineText (ctx : Context) (lines : List Line) : Except Fault String :=
  match cutLines? ctx.indent false lines with
  | some text => .ok (String.ofList (trim text))
  | none => .error .cutShort

/-- The text of lines of code or HTML without `indent` columns of indentation. -/
def rawText (indent : Nat) (feed : Bool) (lines : List Line) : Except Fault String :=
  match cutLines? indent feed lines with
  | some text => .ok (String.ofList text)
  | none => .error .cutShort

/-- A block with the given lines that contains a text to be read inside. -/
def textBlock (role : Role) (start : Nat) (text : String) : Element :=
  .mk role (some start) "" [.mk .inline (some start) text []]

/-- How many of the lines belong to the indented code at their start. Empty lines belong to it only
in front of more code. -/
def codeLines (ctx : Context) : List Line → Nat
  | [] => 0
  | l :: ls =>
    let after := codeLines ctx ls
    if ctx.isCode l && !l.isEmpty then after + 1
    else if l.isEmpty && 0 < after then after + 1
    else 0

/-- How many lines stand between a fence and its end, and whether a line closes the fence there. A
fence is left open at the end of its container, and at an empty last line without a line feed. -/
def fenceLines (ctx : Context) (f : Fence) : List Line → Nat × Bool
  | [] => (0, false)
  | l :: ls =>
    if !l.isEmpty && ctx.isOutside l then (0, false)
    else if l.isEmpty && !l.ended then (0, false)
    else if !ctx.isCode l && f.isClosedBy l.rest then (0, true)
    else
      let (count, closed) := fenceLines ctx f ls
      (count + 1, closed)

/-- How many lines after its first one belong to a block of HTML. -/
def htmlLines (ctx : Context) (start : Html.BlockStart) : List Line → Nat
  | [] => 0
  | l :: ls =>
    if !l.isEmpty && ctx.isOutside l then 0
    else if start.isEndedBy l.rest then if l.isEmpty then 0 else 1
    else htmlLines ctx start ls + 1

/-- A line of a quotation without its marker and the space after it. The columns of the content are
counted from there; a tab after the marker counts for the part of it that is left. -/
def Line.unquote (l : Line) : Line :=
  let offset := l.indent.toNat + 1
  let inner := l.rest.drop 1
  let (body, offset, tabbed) :=
    match inner.head? with
    | some ' ' => (inner.drop 1, offset + 1, false)
    | some '\t' =>
      if (l.base + offset) % 4 == 3 then (inner.drop 1, offset + 1, false)
      else (inner, offset, true)
    | _ => (inner, offset, false)
  let column := columnAfter (l.base + if tabbed then 1 else 0) offset body
  { l with
    body
    shift := (body.takeWhile isSpace).length
    indent := column - offset
    base := l.indent.toNat + 1 + if inner.head?.any isSpace then 1 else 0 }

/-- The lines that belong to a quotation, as the blocks in it see them. A line without a marker
belongs to it as long as the last line with a marker was not empty and nothing interrupts. -/
def quotedLines (ctx : Context) : (lastEmpty : Bool) → List Line → List Line
  | _, [] => []
  | lastEmpty, l :: ls =>
    if l.isEmpty then []
    else if l.rest.head? == some '>' && !ctx.isOutside l then
      let inner := l.unquote
      inner :: quotedLines ctx inner.isEmpty ls
    else if lastEmpty || ctx.interrupts false l then []
    else { l with indent := -1 } :: quotedLines ctx lastEmpty ls

/-- The first line of a list item, with the marker counted as indentation, and the column at which
the blocks of the item start. -/
def Line.enterItem (l : Line) (m : ListMarker) : Line × Nat :=
  let after := l.rest.drop m.width
  let start := l.indent.toNat + m.width
  let spaces := (after.takeWhile isSpace).length
  let column := columnAfter l.base start after
  let gap := if after.all isSpace then 1 else column - start
  let gap := if 4 < gap then 1 else gap
  ({ l with shift := l.shift + m.width + spaces, indent := column }, start + gap)

/-- The items of a list whose next item starts in the first line with the marker `m`, in at most
`fuel` items. An item that is empty and followed by an empty line ends there. -/
def listItems (readItem : BlockReader) (ctx : Context) : (fuel : Nat) → (m : ListMarker) →
    List Line → Except Fault Blocks
  | 0, _, lines => .ok { elements := [], definitions := [], rest := lines }
  | _, _, [] => .ok { elements := [], definitions := [], rest := [] }
  | fuel + 1, m, l :: ls => do
    let (inner, indent) := l.enterItem m
    let item ←
      if inner.isEmpty && ls.head?.all Line.isEmpty then
        pure { elements := [], definitions := [], rest := ls.drop 1 }
      else readItem { indent, listIndent := some ctx.indent } (inner :: ls)
    let rest := ls.drop (ls.length - item.rest.length)
    let element := Element.mk (.other "list_item") (some l.number) "" item.elements
    let next? := do
      let next ← rest.head?
      guard (!ctx.isOutside next && !ctx.isCode next && !ctx.endsList next)
      let marker ← ListMarker.read? next.rest
      guard (marker.continues m)
      return marker
    match next? with
    | none => return { elements := [element], definitions := item.definitions, rest }
    | some marker =>
      let more ← listItems readItem ctx fuel marker rest
      return { elements := element :: more.elements,
               definitions := item.definitions ++ more.definitions, rest := more.rest }

/-- The block that starts in the line `l`, followed by the lines `ls`. -/
def readBlock (readQuote readItem : BlockReader) (ctx : Context) (l : Line) (ls : List Line) :
    Except Fault Blocks := do
  let start := l.number
  let found (element : Element) (used : Nat) : Blocks :=
    { elements := [element], definitions := [], rest := ls.drop used }
  if ctx.isCode l then
    let count := codeLines ctx ls
    let text ← rawText (ctx.indent + 4) false (l :: ls.take count)
    return found (.mk .indentedCode (some start) (text ++ "\n") []) count
  if let some fence := Fence.read? l.rest then
    let (count, closed) := fenceLines ctx fence ls
    let text ← rawText l.indent.toNat true (ls.take count)
    return found (.mk (.fence (String.ofList fence.info)) (some start) text [])
      (if closed then count + 1 else count)
  if l.rest.head? == some '>' then
    let inner := l.unquote
    let quoted := inner :: quotedLines ctx inner.isEmpty ls
    let blocks ← readQuote { ctx with indent := 0 } quoted
    return { elements := [.mk (.other "blockquote") (some start) "" blocks.elements],
             definitions := blocks.definitions,
             rest := (l :: ls).drop (quoted.length - blocks.rest.length) }
  if isThematicBreak l.rest then
    return found (.mk (.other "hr") (some start) "" []) 0
  if let some marker := ctx.listMarker? l then
    let items ← listItems readItem ctx (ls.length + 1) marker (l :: ls)
    let type := if marker.isOrdered then "ordered_list" else "bullet_list"
    return { items with elements := [.mk (.other type) (some start) "" items.elements] }
  let continuations := (ls.takeWhile (ctx.continues false)).map Line.restEnded
  if let some (definition, count) := readDefinition? l.restEnded continuations then
    return { elements := [], definitions := [definition], rest := ls.drop (count - 1) }
  if let some html := Html.blockStart? l.rest then
    let count := if html.isEndedBy l.rest then 0 else htmlLines ctx html ls
    let text ← rawText ctx.indent true (l :: ls.take count)
    return found (.mk .htmlBlock (some start) text []) count
  if let some depth := headingDepth? l.rest then
    let title := String.ofList (trim (headingTitle (l.rest.drop depth)))
    return found (textBlock (.heading (headingTag depth)) start title) 0
  if let some (depth, above) := ctx.underline? 0 ls then
    let text ← inlineText ctx (l :: ls.take above)
    return found (textBlock (.heading (headingTag depth)) start text) (above + 1)
  let count := (ls.takeWhile (ctx.continues true)).length
  let text ← inlineText ctx (l :: ls.take count)
  return found (textBlock .paragraph start text) count

/-- The blocks in the lines up to one that is indented less than the context, in at most `fuel`
blocks. -/
def readBlocks (readQuote readItem : BlockReader) (ctx : Context) : (fuel : Nat) → List Line →
    Except Fault Blocks
  | 0, lines => .ok { elements := [], definitions := [], rest := lines }
  | fuel + 1, lines =>
    match lines.dropWhile Line.isEmpty with
    | [] => .ok { elements := [], definitions := [], rest := [] }
    | l :: ls =>
      if ctx.isOutside l then .ok { elements := [], definitions := [], rest := l :: ls }
      else do
        let block ← readBlock readQuote readItem ctx l ls
        let more ← readBlocks readQuote readItem ctx fuel block.rest
        return { elements := block.elements ++ more.elements,
                 definitions := block.definitions ++ more.definitions, rest := more.rest }

/-- Passes over all lines that belong to a container that is nested too deep. -/
def passOver : BlockReader := fun ctx lines =>
  match lines.dropWhile Line.isEmpty with
  | [] => .ok { elements := [], definitions := [], rest := [] }
  | l :: ls =>
    .ok { elements := [], definitions := [], rest := if ctx.isOutside l then l :: ls else [] }

/-- The reader of blocks in which containers may still nest `depth` levels deep. A quotation is one
level, a list item two: the list and the item. -/
def blockReader : (depth : Nat) → BlockReader
  | 0 => passOver
  | 1 => fun ctx lines => readBlocks passOver passOver ctx (lines.length + 1) lines
  | depth + 2 => fun ctx lines =>
    readBlocks (blockReader (depth + 1)) (blockReader depth) ctx (lines.length + 1) lines

/-- How many levels of containers may nest. -/
def maxNesting : Nat := 20

/-- The blocks and the definitions of a source. -/
def sourceBlocks (source : List Char) : Except Fault Blocks :=
  blockReader maxNesting { indent := 0, listIndent := none } (sourceLines source)

end ProseCheck.Markdown
