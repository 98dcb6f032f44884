import ProseCheck.Document.Walk
import Mathlib.Data.Nat.Notation

/-!
# The walk visits the tree in preorder

The walk over a document keeps a stack and runs on a number of steps that is fixed in advance. The
steps are enough, and the nodes come out in the order of the recursive traversal. Searching a
document is therefore filtering its preorder.
-/

namespace ProseCheck.Document

/-- A list of trees has the nodes of its parts. -/
theorem sizeAll_append (left right : List Node) :
    sizeAll (left ++ right) = sizeAll left + sizeAll right := by
  induction left with
  | nil => simp [sizeAll]
  | cons n left ih =>
    simp only [List.cons_append, sizeAll, ih]
    omega

/-- The preorder of a list of trees is the preorder of its parts in turn. -/
theorem preorderAll_append (left right : List Node) :
    preorderAll (left ++ right) = preorderAll left ++ preorderAll right := by
  induction left with
  | nil => simp [preorderAll]
  | cons n left ih => simp only [List.cons_append, preorderAll, ih, List.append_assoc]

/-- The preorder of one tree as a list of trees. -/
theorem preorderAll_singleton (n : Node) : preorderAll [n] = n.preorder := by
  rw [preorderAll, preorderAll, List.append_nil]

/-- A stack with enough steps left is visited tree by tree, each in preorder. A step replaces the
top node by its children, which leaves one node less to visit. -/
theorem drain_eq_preorderAll {fuel : ℕ} {stack : List Node} (hfuel : sizeAll stack ≤ fuel) :
    drain fuel stack = preorderAll stack := by
  induction fuel generalizing stack with
  | zero =>
    cases stack with
    | nil => simp [drain, preorderAll]
    | cons n stack =>
      obtain ⟨content, line, children⟩ := n
      simp only [sizeAll, Node.size] at hfuel
      omega
  | succ fuel ih =>
    cases stack with
    | nil => simp [drain, preorderAll]
    | cons n stack =>
      obtain ⟨content, line, children⟩ := n
      have hrest : sizeAll (children ++ stack) ≤ fuel := by
        simp only [sizeAll, Node.size] at hfuel
        rw [sizeAll_append]
        omega
      simp only [drain, preorderAll, Node.preorder, Node.children, ih hrest, preorderAll_append,
        List.cons_append]

namespace Node

/-- The preorder of a node is the node and then the preorder of its children. -/
theorem preorder_eq_cons (n : Node) : n.preorder = n :: preorderAll n.children := by
  obtain ⟨content, line, children⟩ := n
  rfl

/-- The walk from a node yields the recursive preorder of its tree. -/
theorem nodes_eq_preorder (n : Node) : n.nodes = n.preorder := by
  have hfuel : sizeAll [n] ≤ n.size := by simp [sizeAll]
  rw [nodes, drain_eq_preorderAll hfuel]
  simp [preorderAll]

/-- Searching a tree is filtering its preorder. -/
theorem findAll_eq_filter_preorder (n : Node) (classes : List NodeClass) :
    n.findAll classes = n.preorder.filter (fun m => classes.any m.isA) := by
  rw [findAll, nodes_eq_preorder]

/-- The headings of a tree in preorder. -/
theorem headings_eq_filter_preorder (n : Node) :
    n.headings = n.preorder.filter (fun m => m.isA .heading) := by
  simp [headings, findAll_eq_filter_preorder]

/-- The paragraphs of a tree in preorder. -/
theorem paragraphs_eq_filter_preorder (n : Node) :
    n.paragraphs = n.preorder.filter (fun m => m.isA .paragraph) := by
  simp [paragraphs, findAll_eq_filter_preorder]

end Node

end ProseCheck.Document
