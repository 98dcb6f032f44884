import ProseCheck.Document.Basic
import ProseCheck.Text.DecimalDigit

/-!
# Markdown elements

The structure of a Markdown source as the reader finds it: blocks, each with its first line, and
inside a block an `inline` element that wraps what stands on its lines. `toDocument` turns it into a
document: the wrappers vanish, and what is code, HTML or an image keeps no children.
-/

namespace ProseCheck.Markdown

open ProseCheck.Document

/-- What an element is. -/
inductive Role where
  /-- The wrapper around the content of a block. -/
  | inline
  /-- A stretch of prose. -/
  | text
  /-- The end of a source line inside a paragraph. -/
  | softBreak
  /-- A line break that is asked for. -/
  | hardBreak
  /-- Code inside a line. -/
  | codeSpan
  /-- A fenced block of code with what follows the opening fence. -/
  | fence (info : String)
  /-- An indented block of code. -/
  | indentedCode
  /-- A block of HTML. -/
  | htmlBlock
  /-- A piece of HTML inside a line. -/
  | htmlSpan
  /-- An image with its address. -/
  | image (src : String)
  /-- A heading with its tag, `h` and the digits of its depth. -/
  | heading (tag : String)
  /-- A paragraph. -/
  | paragraph
  /-- Any other structure. -/
  | other (type : String)
  deriving DecidableEq, Repr, Inhabited

/-- An element: what it is, its first line counted from zero if it has a place of its own, its
literal content, and the elements inside it. -/
inductive Element where
  | mk (role : Role) (start : Option Nat) (content : String) (children : List Element)
  deriving Repr, Inhabited

namespace Element

/-- What the element is. -/
def role : Element → Role
  | mk role _ _ _ => role

/-- The first line of the element, counted from zero. -/
def start : Element → Option Nat
  | mk _ start _ _ => start

/-- The literal content of the element. -/
def content : Element → String
  | mk _ _ content _ => content

/-- The elements inside the element. -/
def children : Element → List Element
  | mk _ _ _ children => children

end Element

/-- What an element without a structure of its own stands for in a document. -/
def Role.leaf? (content : String) : Role → Option Content
  | .text => some (.text content)
  | .softBreak => some (.text "\n")
  | .hardBreak => some .lineBreak
  | .codeSpan => some (.inlineCode content)
  | .fence info => some (.code content info)
  | .indentedCode => some (.code content "")
  | .htmlBlock => some (.html content)
  | .htmlSpan => some (.html content)
  | .image src => some (.image content src)
  | _ => none

/-- The tag of a heading of the given depth. -/
def headingTag (depth : Nat) : String :=
  String.ofList ('h' :: Nat.toDigits 10 depth)

/-- The depth of the heading with the given tag: the number after its first character. -/
def tagDepth (tag : String) : Nat :=
  Text.decimalValue (tag.toList.drop 1)

/-- What an element with a structure of its own stands for in a document. -/
def Role.branch : Role → Content
  | .heading tag => .heading (tagDepth tag)
  | .paragraph => .paragraph
  | .other type => .container type
  | _ => .container "inline"

mutual

/-- The nodes of a document that an element stands for: the nodes inside it if it is a wrapper, and
else a single one. -/
def Element.toNodes : Element → List Node
  | .mk role start content children =>
    let line := start.map fun n => (n : Int) + 1
    match role.leaf? content with
    | some leaf => [.mk leaf line []]
    | none =>
      match role with
      | .inline => nodesOfElements children
      | _ => [.mk role.branch line (nodesOfElements children)]

/-- The nodes of a document that a list of elements stands for. -/
def nodesOfElements : List Element → List Node
  | [] => []
  | e :: es => e.toNodes ++ nodesOfElements es

end

/-- The document that a list of elements stands for. -/
def toDocument (elements : List Element) : Node :=
  .mk .document (some 1) (nodesOfElements elements)

mutual

/-- The element with the content of every wrapper in it read by `read`. -/
def Element.mapInline (read : String → List Element) : Element → Element
  | .mk role start content children =>
    match role with
    | .inline => .mk .inline start content (read content)
    | _ => .mk role start content (mapInlineAll read children)

/-- The elements with the content of every wrapper in them read by `read`. -/
def mapInlineAll (read : String → List Element) : List Element → List Element
  | [] => []
  | e :: es => e.mapInline read :: mapInlineAll read es

end

end ProseCheck.Markdown
