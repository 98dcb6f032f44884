import ProseCheck.Proofs.Walk
import Mathlib.Data.List.Basic
import Mathlib.Order.WellFounded

/-!
# Document order

The walk over a document has a stack of trees. In a turn it takes the last tree off, visits the root
of that tree and puts the children of the root on the stack, the last child first. A turn leaves one
node less on the stack, so the walk ends. What has been visited, followed by the preorder of the
stack from its top down, is the same before and after a turn, so the walk yields the preorder.

A node has a place in the tree: the numbers of the children on the way from the root to it. The
nodes come out in the lexicographic order of their places, every place once.
-/

namespace ProseCheck.Document

/-! ### The turns of the walk -/

/-- A turn of the walk, from a stack to the next one, with the node that is visited. The top of a
stack is its last tree. -/
inductive Turn : List Node → Node → List Node → Prop where
  | visit (below : List Node) (n : Node) : Turn (below ++ [n]) n (below ++ n.children.reverse)

/-- Turns from a stack to a later one, with the nodes that are visited. -/
inductive Turns : List Node → List Node → List Node → Prop where
  | done (stack : List Node) : Turns stack [] stack
  | turn {stack next last : List Node} {n : Node} {visited : List Node} (hturn : Turn stack n next)
      (hturns : Turns next visited last) : Turns stack (n :: visited) last

/-- A list of trees in reverse has the same nodes. -/
theorem sizeAll_reverse (ns : List Node) : sizeAll ns.reverse = sizeAll ns := by
  induction ns with
  | nil => rfl
  | cons n ns ih =>
    rw [List.reverse_cons, sizeAll_append, ih]
    simp only [sizeAll]
    omega

/-- A node is one more than what is below it. -/
theorem Node.size_eq (n : Node) : n.size = sizeAll n.children + 1 := by
  obtain ⟨content, line, children⟩ := n
  rfl

section Step

variable {stack next : List Node} {n : Node}

/-- A turn leaves one node less on the stack. -/
theorem Turn.sizeAll_eq (h : Turn stack n next) : sizeAll stack = sizeAll next + 1 := by
  cases h with
  | visit below n =>
    have hsize := n.size_eq
    simp only [sizeAll_append, sizeAll_reverse, sizeAll]
    omega

/-- The node that a turn visits comes first in the preorder of the stack from its top down. -/
theorem Turn.preorderAll_eq (h : Turn stack n next) :
    preorderAll stack.reverse = n :: preorderAll next.reverse := by
  cases h with
  | visit below n =>
    rw [List.reverse_append, List.reverse_singleton, preorderAll_append, preorderAll_singleton,
      Node.preorder_eq_cons, List.reverse_append, List.reverse_reverse, preorderAll_append,
      List.cons_append]

/-- There is a turn as long as there is something on the stack. -/
theorem exists_turn_of_ne_nil (hstack : stack ≠ []) : ∃ n next, Turn stack n next := by
  obtain ⟨below, n, rfl⟩ := (List.eq_nil_or_concat' stack).resolve_left hstack
  exact ⟨n, _, .visit below n⟩

end Step

/-- There is no endless walk, whatever is on the stack. -/
theorem wellFounded_turn : WellFounded fun next stack => ∃ n, Turn stack n next := by
  refine Subrelation.wf ?_ (measure sizeAll).wf
  rintro next stack ⟨n, hturn⟩
  have hsize := hturn.sizeAll_eq
  change sizeAll next < sizeAll stack
  omega

/-- The nodes that are visited come first in the preorder of the stack, and the preorder of what is
left on the stack comes after them. -/
theorem Turns.preorderAll_eq {stack visited last : List Node} (h : Turns stack visited last) :
    preorderAll stack.reverse = visited ++ preorderAll last.reverse := by
  induction h with
  | done stack => rfl
  | turn hturn _ ih => rw [hturn.preorderAll_eq, ih, List.cons_append]

/-- Every walk can go on until nothing is left on the stack. -/
theorem exists_turns_to_nil (stack : List Node) : ∃ visited, Turns stack visited [] := by
  induction stack using wellFounded_turn.induction with
  | _ stack ih =>
    by_cases hstack : stack = []
    · exact ⟨[], hstack ▸ .done []⟩
    · obtain ⟨n, next, hturn⟩ := exists_turn_of_ne_nil hstack
      obtain ⟨visited, hturns⟩ := ih next ⟨n, hturn⟩
      exact ⟨n :: visited, .turn hturn hturns⟩

/-- What a walk from a tree has visited, followed by what is left on the stack, are the nodes of the
tree. -/
theorem Turns.nodes_eq {n : Node} {visited stack : List Node} (h : Turns [n] visited stack) :
    n.nodes = visited ++ preorderAll stack.reverse := by
  rw [n.nodes_eq_preorder, ← preorderAll_singleton, ← List.reverse_singleton, h.preorderAll_eq]

/-- A walk that can go no further has visited all nodes of the tree. -/
theorem Turns.eq_nodes {n : Node} {visited stack : List Node} (h : Turns [n] visited stack)
    (hend : ∀ m next, ¬Turn stack m next) : visited = n.nodes := by
  by_cases hstack : stack = []
  · subst hstack
    rw [h.nodes_eq, List.reverse_nil, preorderAll, List.append_nil]
  · obtain ⟨m, next, hturn⟩ := exists_turn_of_ne_nil hstack
    exact absurd hturn (hend m next)

/-- There is nothing to visit on an empty stack. -/
theorem not_turn_nil (n : Node) (next : List Node) : ¬Turn [] n next := by
  generalize hstack : ([] : List Node) = stack
  rintro ⟨below, n⟩
  simp at hstack

/-! ### Places -/

/-- The tree at a place of a tree. -/
def Node.at? : Node → (place : List ℕ) → Option Node
  | n, [] => some n
  | n, i :: place => n.children[i]?.bind fun m => m.at? place

mutual

/-- The places of a tree in document order. -/
def Node.places : Node → List (List ℕ)
  | .mk _ _ children => [] :: placesFrom 0 children

/-- The places in trees that are the children of a node from number `i` on. -/
def placesFrom : (i : ℕ) → List Node → List (List ℕ)
  | _, [] => []
  | i, n :: ns => n.places.map (i :: ·) ++ placesFrom (i + 1) ns

end

/-- The places in a tree are its root and those in its children. -/
theorem Node.places_eq_cons (n : Node) : n.places = [] :: placesFrom 0 n.children := by
  obtain ⟨content, line, children⟩ := n
  rfl

/-- A place below a node is a child and a place of that child. -/
theorem mem_placesFrom_iff {i : ℕ} {ns : List Node} {place : List ℕ} :
    place ∈ placesFrom i ns ↔
      ∃ k m inner, ns[k]? = some m ∧ inner ∈ m.places ∧ place = (i + k) :: inner := by
  induction ns generalizing i with
  | nil => simp [placesFrom]
  | cons n ns ih =>
    simp only [placesFrom, List.mem_append, List.mem_map, ih]
    constructor
    · rintro (⟨inner, hinner, rfl⟩ | ⟨k, m, inner, hm, hinner, rfl⟩)
      · exact ⟨0, n, inner, rfl, hinner, rfl⟩
      · exact ⟨k + 1, m, inner, hm, hinner, by congr 1; omega⟩
    · rintro ⟨k, m, inner, hm, hinner, rfl⟩
      cases k with
      | zero =>
        obtain rfl : n = m := by simpa using hm
        exact Or.inl ⟨inner, hinner, rfl⟩
      | succ k => exact Or.inr ⟨k, m, inner, by simpa using hm, hinner, by congr 1; omega⟩

/-- The places of a tree are those where there is a tree. -/
theorem Node.mem_places_iff {n : Node} {place : List ℕ} :
    place ∈ n.places ↔ ∃ m, n.at? place = some m := by
  induction place generalizing n with
  | nil => simp [places_eq_cons, Node.at?]
  | cons i place ih =>
    rw [places_eq_cons, List.mem_cons, or_iff_right (List.cons_ne_nil i place), mem_placesFrom_iff]
    constructor
    · rintro ⟨k, m, inner, hm, hinner, heq⟩
      obtain ⟨rfl, rfl⟩ : i = 0 + k ∧ place = inner := by simpa using heq
      obtain ⟨tree, htree⟩ := ih.mp hinner
      rw [Nat.zero_add]
      exact ⟨tree, by rw [Node.at?, hm, Option.bind_some, htree]⟩
    · rintro ⟨tree, htree⟩
      rw [Node.at?] at htree
      obtain ⟨m, hm, htree⟩ := Option.bind_eq_some_iff.mp htree
      exact ⟨i, m, place, hm, ih.mpr ⟨tree, htree⟩, by rw [Nat.zero_add]⟩

/-- A place starts with the number of a child that is not before the first one. -/
theorem exists_cons_of_mem_placesFrom {i : ℕ} {ns : List Node} {place : List ℕ}
    (h : place ∈ placesFrom i ns) : ∃ j inner, i ≤ j ∧ place = j :: inner := by
  obtain ⟨k, _, inner, _, _, rfl⟩ := mem_placesFrom_iff.mp h
  exact ⟨i + k, inner, Nat.le_add_right i k, rfl⟩

mutual

/-- The places of a tree are in lexicographic order. -/
theorem Node.pairwise_places : (n : Node) → n.places.Pairwise (· < ·)
  | .mk _ _ children => by
    refine List.pairwise_cons.mpr ⟨fun place hplace => ?_, pairwise_placesFrom 0 children⟩
    obtain ⟨j, inner, _, rfl⟩ := exists_cons_of_mem_placesFrom hplace
    exact List.nil_lt_cons j inner

/-- The places below a node are in lexicographic order. -/
theorem pairwise_placesFrom : (i : ℕ) → (ns : List Node) → (placesFrom i ns).Pairwise (· < ·)
  | _, [] => .nil
  | i, n :: ns => by
    refine List.pairwise_append.mpr ⟨?_, pairwise_placesFrom (i + 1) ns, ?_⟩
    · refine List.pairwise_map.mpr (n.pairwise_places.imp fun hlt => ?_)
      exact List.cons_lt_cons_iff.mpr (Or.inr ⟨rfl, hlt⟩)
    · intro place hplace later hlater
      obtain ⟨inner, _, rfl⟩ := List.mem_map.mp hplace
      obtain ⟨j, _, hj, rfl⟩ := exists_cons_of_mem_placesFrom hlater
      exact List.cons_lt_cons_iff.mpr (Or.inl (by omega))

end

mutual

/-- The trees at the places of a tree are the preorder of the tree. -/
theorem Node.map_at?_places : (n : Node) → n.places.map n.at? = n.preorder.map some
  | .mk content line children => by
    have hbelow := map_at?_placesFrom (.mk content line children) [] children rfl
    rw [Node.places, Node.preorder, List.map_cons, List.map_cons, Node.at?]
    exact congrArg _ hbelow

/-- The trees at the places below a node, from one of its children on, are the preorder of these
children. -/
theorem map_at?_placesFrom : (parent : Node) → (before ns : List Node) →
    parent.children = before ++ ns →
    (placesFrom before.length ns).map parent.at? = (preorderAll ns).map some
  | _, _, [], _ => rfl
  | parent, before, n :: ns, hchildren => by
    have hat (inner : List ℕ) : parent.at? (before.length :: inner) = n.at? inner := by
      simp [Node.at?, hchildren]
    have hrest := map_at?_placesFrom parent (before ++ [n]) ns (by simp [hchildren])
    rw [List.length_append, List.length_singleton] at hrest
    rw [placesFrom, preorderAll, List.map_append, List.map_append, List.map_map, hrest,
      ← n.map_at?_places]
    simp only [Function.comp_def, hat]

end

/-! ### What is found in a tree -/

/-- The preorder of trees is that of each of them in turn. -/
theorem preorderAll_eq_flatMap (ns : List Node) : preorderAll ns = ns.flatMap Node.preorder := by
  induction ns with
  | nil => rfl
  | cons n ns ih => rw [preorderAll, ih, List.flatMap_cons]

namespace Node

/-- The nodes of a tree are its root and then the nodes of each child in turn. -/
theorem nodes_eq_cons (n : Node) : n.nodes = n :: n.children.flatMap nodes := by
  have hnodes : nodes = preorder := funext nodes_eq_preorder
  rw [hnodes, preorder_eq_cons, preorderAll_eq_flatMap]

/-- What is found in a tree is its root, if it matches, and then what is found in each child in
turn. -/
theorem findAll_eq_append (n : Node) (classes : List NodeClass) :
    n.findAll classes =
      (if ∃ c ∈ classes, n.isA c = true then [n] else []) ++
        n.children.flatMap (·.findAll classes) := by
  unfold findAll
  rw [nodes_eq_cons, List.filter_cons, List.filter_flatMap]
  simp only [List.any_eq_true]
  split <;> rfl

/-- The text of a tree is what its root contributes and then the text of each child in turn. -/
theorem text_eq_append (n : Node) :
    n.text = n.content.ownText ++ String.join (n.children.map text) := by
  have hjoin (ns : List Node) : String.join ((ns.flatMap nodes).map fun m => m.content.ownText) =
      String.join (ns.map text) := by
    induction ns with
    | nil => rfl
    | cons m ns ih =>
      rw [List.flatMap_cons, List.map_append, String.join_append, ih, List.map_cons,
        String.join_cons, text]
  rw [text, nodes_eq_cons, List.map_cons, String.join_cons, hjoin]

end Node

/-- The walk ends from every stack. At any time a walk from a tree has visited the first nodes of
the tree, and all of them when it has come to its end, in preorder: the root, and then the preorder
of each child in turn. They are the trees at all the places of the tree, each place once and in
lexicographic order. So what is found in a tree and its text are those of its root followed by those
of its children. -/
theorem nodes_in_document_order (n : Node) :
    (WellFounded fun next stack => ∃ m, Turn stack m next) ∧
    (∀ visited stack, Turns [n] visited stack →
      visited <+: n.nodes ∧ ((∀ m next, ¬Turn stack m next) → visited = n.nodes)) ∧
    Turns [n] n.nodes [] ∧
    n.nodes = n.preorder ∧
    n.nodes = n :: n.children.flatMap Node.nodes ∧
    n.nodes.map some = n.places.map n.at? ∧
    (∀ place, place ∈ n.places ↔ ∃ m, n.at? place = some m) ∧
    n.places.Pairwise (· < ·) ∧
    (∀ classes, n.findAll classes =
      (if ∃ c ∈ classes, n.isA c = true then [n] else []) ++
        n.children.flatMap (·.findAll classes)) ∧
    (∀ value, n.content = .text value →
      n.text = value ++ String.join (n.children.map Node.text)) ∧
    ((∀ value, n.content ≠ .text value) → n.text = String.join (n.children.map Node.text)) := by
  refine ⟨wellFounded_turn, fun visited stack hturns => ⟨?_, hturns.eq_nodes⟩, ?_,
    n.nodes_eq_preorder, n.nodes_eq_cons, ?_, fun _ => n.mem_places_iff, n.pairwise_places,
    n.findAll_eq_append, fun value hvalue => ?_, fun hnot => ?_⟩
  · rw [hturns.nodes_eq]
    exact List.prefix_append _ _
  · obtain ⟨visited, hturns⟩ := exists_turns_to_nil [n]
    rwa [← hturns.eq_nodes not_turn_nil]
  · rw [n.nodes_eq_preorder, n.map_at?_places]
  · rw [n.text_eq_append, hvalue, Content.ownText]
  · rw [n.text_eq_append]
    cases hcontent : n.content with
    | text value => exact absurd hcontent (hnot value)
    | _ => simp [Content.ownText]

end ProseCheck.Document
