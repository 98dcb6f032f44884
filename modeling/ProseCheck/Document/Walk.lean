import ProseCheck.Document.Basic

/-!
# Walking a document

The nodes of a tree in document order, a parent before its children. The walk keeps a stack of the
subtrees that are still to be visited; its length is bounded by the number of nodes.
-/

namespace ProseCheck.Document

mutual

/-- The number of nodes of the tree below and including a node. -/
def Node.size : Node → Nat
  | .mk _ _ children => sizeAll children + 1

/-- The number of nodes of a list of trees. -/
def sizeAll : List Node → Nat
  | [] => 0
  | n :: ns => n.size + sizeAll ns

end

mutual

/-- The nodes of a tree, a parent before its children and children from left to right. -/
def Node.preorder : Node → List Node
  | .mk content line children => .mk content line children :: preorderAll children

/-- The nodes of a list of trees, one tree after the other. -/
def preorderAll : List Node → List Node
  | [] => []
  | n :: ns => n.preorder ++ preorderAll ns

end

/-- Visits the subtrees on a stack, top first, in at most `fuel` steps: a step takes the top node
and puts its children in its place. -/
def drain : (fuel : Nat) → (stack : List Node) → List Node
  | 0, _ => []
  | _, [] => []
  | fuel + 1, n :: stack => n :: drain fuel (n.children ++ stack)

namespace Node

/-- The nodes of the tree at `n` in document order, `n` first. -/
def nodes (n : Node) : List Node :=
  drain n.size [n]

/-- The nodes of the tree at `n` that belong to one of the classes, in document order. -/
def findAll (n : Node) (classes : List NodeClass) : List Node :=
  n.nodes.filter (fun m => classes.any m.isA)

/-- The headings of the tree at `n`. -/
def headings (n : Node) : List Node :=
  n.findAll [.heading]

/-- The paragraphs of the tree at `n`. -/
def paragraphs (n : Node) : List Node :=
  n.findAll [.paragraph]

/-- The text of the tree at `n`: the values of its text nodes without anything between them. Code,
HTML and alternative texts of images contribute nothing. -/
def text (n : Node) : String :=
  String.join (n.nodes.map (fun m => m.content.ownText))

end Node

mutual

/-- The tree at a node without the empty text nodes that have no children. -/
def Node.prune : Node → Node
  | .mk content line children => .mk content line (pruneAll children)

/-- A list of trees without the empty text nodes that have no children. -/
def pruneAll : List Node → List Node
  | [] => []
  | n :: ns =>
    if n.content = .text "" && n.children.isEmpty then pruneAll ns
    else n.prune :: pruneAll ns

end

end ProseCheck.Document
