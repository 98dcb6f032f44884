/-!
# Document trees

A document is a tree of nodes. What a node is, with the data that only nodes of its kind have, is
its `Content`; every node has a line, if its position is known, and children. Any content may stand
on a node with children.
-/

namespace ProseCheck.Document

/-- What a node stands for. -/
inductive Content where
  /-- A node of no particular kind. -/
  | plain
  /-- The root of a document. -/
  | document
  /-- A heading of the given depth. -/
  | heading (depth : Int)
  /-- A paragraph. -/
  | paragraph
  /-- Literal prose, the only content that counts as text of the document. -/
  | text (value : String)
  /-- A line break that is part of the prose. -/
  | lineBreak
  /-- Code inside a line. -/
  | inlineCode (value : String)
  /-- A block of code, with the words that follow its opening fence. -/
  | code (value info : String)
  /-- Raw HTML. -/
  | html (value : String)
  /-- An image; its alternative text is data and not prose. -/
  | image (alt src : String)
  /-- Any other structure, such as a list, a quotation or emphasis, named by `type`. -/
  | container (type : String)
  deriving DecidableEq, Repr, Inhabited

/-- The kinds of content by which nodes are searched. Every node is of the class `node`. -/
inductive NodeClass where
  | node | document | heading | paragraph | text | lineBreak | inlineCode | code | html | image
  | container
  deriving DecidableEq, Repr, Inhabited

/-- The most specific class of a content. -/
def Content.nodeClass : Content → NodeClass
  | .plain => .node
  | .document => .document
  | .heading _ => .heading
  | .paragraph => .paragraph
  | .text _ => .text
  | .lineBreak => .lineBreak
  | .inlineCode _ => .inlineCode
  | .code _ _ => .code
  | .html _ => .html
  | .image _ _ => .image
  | .container _ => .container

/-- The name of a content in a listing. A container goes by the name of its type, which may be the
name of another content. -/
def Content.kind : Content → String
  | .plain => "node"
  | .document => "root"
  | .heading _ => "heading"
  | .paragraph => "paragraph"
  | .text _ => "text"
  | .lineBreak => "break"
  | .inlineCode _ => "inlineCode"
  | .code _ _ => "code"
  | .html _ => "html"
  | .image _ _ => "image"
  | .container type => type

/-- The text that a content contributes by itself. -/
def Content.ownText : Content → String
  | .text value => value
  | _ => ""

/-- A node of a document: its content, the line on which it starts, if known, and its children. -/
inductive Node where
  | mk (content : Content) (line : Option Int) (children : List Node)
  deriving Repr, Inhabited

namespace Node

/-- What the node stands for. -/
def content : Node → Content
  | mk content _ _ => content

/-- The line on which the node starts, if known. -/
def line : Node → Option Int
  | mk _ line _ => line

/-- The children of the node in document order. -/
def children : Node → List Node
  | mk _ _ children => children

/-- The line on which the node starts, zero if it is unknown. -/
def lineNumber (n : Node) : Int :=
  n.line.getD 0

/-- Whether the node belongs to the class `c`. -/
def isA (n : Node) (c : NodeClass) : Bool :=
  c == .node || n.content.nodeClass == c

end Node

end ProseCheck.Document
