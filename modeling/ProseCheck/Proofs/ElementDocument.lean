import ProseCheck.Markdown.Element
import ProseCheck.Proofs.Walk
import Mathlib.Data.List.Basic

/-!
# The document of a tree of elements

The document that elements stand for keeps their prose and their structure, however they are nested.
Its nodes are those of the elements that can be seen, which is all elements but those below a leaf,
less the wrappers. So its text, its headings and its paragraphs are read off the elements in
document order, and the same holds below every heading and every paragraph.
-/

namespace ProseCheck.Markdown

open ProseCheck.Document

/-! ### What can be seen -/

/-- Whether what is inside an element of this role is left out of a document. -/
def Role.isLeaf : Role → Bool
  | .text | .softBreak | .hardBreak | .codeSpan | .fence _ | .indentedCode | .htmlBlock
  | .htmlSpan | .image _ => true
  | .inline | .heading _ | .paragraph | .other _ => false

mutual

/-- The element and all that can be seen inside it, in document order. -/
def Element.visible : Element → List Element
  | .mk role start content children =>
    .mk role start content children :: if role.isLeaf then [] else visibleAll children

/-- All that can be seen in a list of elements, in document order. -/
def visibleAll : List Element → List Element
  | [] => []
  | e :: es => e.visible ++ visibleAll es

end

namespace Element

/-- The prose that an element contributes by itself. -/
def prose (e : Element) : String :=
  match e.role with
  | .text => e.content
  | .softBreak => "\n"
  | _ => ""

/-- The line of an element, counted from one, if it has a place of its own. -/
def line (e : Element) : Option Int :=
  e.start.map fun n => (n : Int) + 1

/-- Whether an element wraps the content of a block. -/
def isWrapper (e : Element) : Bool :=
  e.role == .inline

/-- The heading that an element stands for, if it is one. -/
def heading? (e : Element) : Option Node :=
  match e.role with
  | .heading tag => some (.mk (.heading (tagDepth tag)) e.line (nodesOfElements e.children))
  | _ => none

/-- The paragraph that an element stands for, if it is one. -/
def paragraph? (e : Element) : Option Node :=
  match e.role with
  | .paragraph => some (.mk .paragraph e.line (nodesOfElements e.children))
  | _ => none

/-- The node that an element stands for if it is no wrapper. -/
def node (e : Element) : Node :=
  match e.role.leaf? e.content with
  | some leaf => .mk leaf e.line []
  | none => .mk e.role.branch e.line (nodesOfElements e.children)

end Element

namespace Element

/-- An element is seen before what is inside it. -/
theorem visible_eq_cons (e : Element) :
    e.visible = e :: if e.role.isLeaf then [] else visibleAll e.children := by
  obtain ⟨role, start, content, children⟩ := e
  rfl

/-- A wrapper is no leaf. -/
theorem isLeaf_of_isWrapper {e : Element} (hwrapper : e.isWrapper = true) :
    e.role.isLeaf = false := by
  rw [isWrapper, beq_iff_eq] at hwrapper
  rw [hwrapper]
  rfl

/-- The node of a leaf has no children; that of any other element has what is inside it. -/
theorem children_node (e : Element) :
    e.node.children = if e.role.isLeaf then [] else nodesOfElements e.children := by
  obtain ⟨role, start, content, children⟩ := e
  cases role <;> rfl

/-- An element stands for what is inside it if it is a wrapper, and else for its node. -/
theorem toNodes_eq (e : Element) :
    e.toNodes = if e.isWrapper then nodesOfElements e.children else [e.node] := by
  obtain ⟨role, start, content, children⟩ := e
  cases role <;> rfl

/-- If the nodes inside an element are those of the elements that can be seen inside it, then the
same holds of the element. A wrapper is seen and has no node; what is inside a leaf is not seen. -/
theorem preorderAll_toNodes_of_children {e : Element}
    (hchildren : preorderAll (nodesOfElements e.children) =
      ((visibleAll e.children).filter (!·.isWrapper)).map node) :
    preorderAll e.toNodes = (e.visible.filter (!·.isWrapper)).map node := by
  rw [toNodes_eq, visible_eq_cons]
  cases hwrapper : e.isWrapper with
  | true => simp [hwrapper, isLeaf_of_isWrapper hwrapper, hchildren]
  | false =>
    rw [if_neg (by simp), preorderAll_singleton, Node.preorder_eq_cons, children_node,
      List.filter_cons_of_pos (by simp [hwrapper]), List.map_cons]
    cases e.role.isLeaf with
    | true => simp [preorderAll]
    | false => simp [hchildren]

end Element

mutual

/-- The nodes in the trees that an element stands for are those of the elements that can be seen in
it. -/
theorem Element.preorderAll_toNodes : (e : Element) →
    preorderAll e.toNodes = (e.visible.filter (!·.isWrapper)).map Element.node
  | .mk _ _ _ children =>
    Element.preorderAll_toNodes_of_children (preorderAll_nodesOfElements children)

/-- The nodes in the trees that elements stand for are those of the elements that can be seen. -/
theorem preorderAll_nodesOfElements : (es : List Element) →
    preorderAll (nodesOfElements es) = ((visibleAll es).filter (!·.isWrapper)).map Element.node
  | [] => rfl
  | e :: es => by
    have hhead := e.preorderAll_toNodes
    have htail := preorderAll_nodesOfElements es
    rw [nodesOfElements, preorderAll_append, hhead, htail, visibleAll, List.filter_append,
      List.map_append]

end

/-- The nodes below the root of a document are those of the elements that can be seen in it. -/
theorem nodes_toDocument (es : List Element) :
    (toDocument es).nodes =
      toDocument es :: ((visibleAll es).filter (!·.isWrapper)).map Element.node := by
  rw [Node.nodes_eq_preorder, Node.preorder_eq_cons, ← preorderAll_nodesOfElements]
  rfl

/-- The nodes in the tree of an element that is no wrapper are those of what can be seen in it. -/
theorem Element.nodes_node {e : Element} (hwrapper : e.isWrapper = false) :
    e.node.nodes = (e.visible.filter (!·.isWrapper)).map Element.node := by
  rw [Node.nodes_eq_preorder, ← e.preorderAll_toNodes, toNodes_eq, hwrapper, if_neg (by simp),
    preorderAll_singleton]

/-! ### Prose, headings and paragraphs -/

namespace Element

/-- The node of an element contributes the prose of the element. -/
theorem ownText_node (e : Element) : e.node.content.ownText = e.prose := by
  obtain ⟨role, start, content, children⟩ := e
  cases role <;> rfl

/-- A wrapper contributes no prose by itself. -/
theorem prose_of_isWrapper {e : Element} (hwrapper : e.isWrapper = true) : e.prose = "" := by
  rw [isWrapper, beq_iff_eq] at hwrapper
  rw [prose, hwrapper]

/-- The elements that stand for headings are those whose nodes are headings. -/
theorem heading?_eq (e : Element) :
    e.heading? = if !e.isWrapper && e.node.isA .heading then some e.node else none := by
  obtain ⟨role, start, content, children⟩ := e
  cases role <;> rfl

/-- The elements that stand for paragraphs are those whose nodes are paragraphs. -/
theorem paragraph?_eq (e : Element) :
    e.paragraph? = if !e.isWrapper && e.node.isA .paragraph then some e.node else none := by
  obtain ⟨role, start, content, children⟩ := e
  cases role <;> rfl

end Element

/-- Elements without a text of their own may be left out of a join. -/
private theorem join_filter_of_eq_empty {α : Type} {p : α → Bool} {text : α → String}
    (hempty : ∀ a, p a = false → text a = "") (l : List α) :
    String.join ((l.filter p).map text) = String.join (l.map text) := by
  induction l with
  | nil => rfl
  | cons a l ih =>
    cases hp : p a with
    | true => rw [List.filter_cons_of_pos hp, List.map_cons, List.map_cons, String.join_cons,
        String.join_cons, ih]
    | false => rw [List.filter_cons_of_neg (by simp [hp]), ih, List.map_cons, String.join_cons,
        hempty a hp, String.empty_append]

/-- Choosing among the images of chosen elements is choosing once. -/
private theorem filter_map_filter {α β : Type} (p : α → Bool) (g : α → β) (q : β → Bool)
    (l : List α) :
    ((l.filter p).map g).filter q =
      l.filterMap fun a => if p a && q (g a) then some (g a) else none := by
  induction l with
  | nil => rfl
  | cons a l ih => by_cases hp : p a <;> by_cases hq : q (g a) <;> simp [hp, hq, ih]

/-- A node has the text, the headings and the paragraphs of a list of elements. -/
structure Mirrors (n : Node) (es : List Element) : Prop where
  /-- The text is the prose of the elements without anything between them. -/
  text : n.text = String.join (es.map Element.prose)
  /-- The headings are those of the elements. -/
  headings : n.headings = es.filterMap Element.heading?
  /-- The paragraphs are those of the elements. -/
  paragraphs : n.paragraphs = es.filterMap Element.paragraph?

section Mirrors

variable (es : List Element)

/-- The nodes of elements that are no wrappers have the text of all the elements. -/
theorem join_ownText_map_node :
    String.join (((es.filter (!·.isWrapper)).map Element.node).map fun n => n.content.ownText) =
      String.join (es.map Element.prose) := by
  have hempty (e : Element) (he : (!e.isWrapper) = false) : e.prose = "" :=
    Element.prose_of_isWrapper (by simpa using he)
  rw [← join_filter_of_eq_empty hempty, List.map_map]
  simp only [Function.comp_def, Element.ownText_node]

/-- The headings among the nodes of elements that are no wrappers. -/
theorem filter_isA_heading_map_node :
    ((es.filter (!·.isWrapper)).map Element.node).filter (·.isA .heading) =
      es.filterMap Element.heading? := by
  rw [filter_map_filter]
  exact List.filterMap_congr fun e _ => e.heading?_eq.symm

/-- The paragraphs among the nodes of elements that are no wrappers. -/
theorem filter_isA_paragraph_map_node :
    ((es.filter (!·.isWrapper)).map Element.node).filter (·.isA .paragraph) =
      es.filterMap Element.paragraph? := by
  rw [filter_map_filter]
  exact List.filterMap_congr fun e _ => e.paragraph?_eq.symm

/-- A document has the text, the headings and the paragraphs of what can be seen in it. Its root
adds nothing. -/
theorem mirrors_toDocument : Mirrors (toDocument es) (visibleAll es) := by
  have hnodes := nodes_toDocument es
  rw [Node.nodes_eq_preorder] at hnodes
  constructor
  · rw [Node.text, Node.nodes_eq_preorder, hnodes, List.map_cons, String.join_cons,
      join_ownText_map_node]
    exact String.empty_append
  · rw [Node.headings_eq_filter_preorder, hnodes, List.filter_cons_of_neg (by simp; rfl)]
    exact filter_isA_heading_map_node _
  · rw [Node.paragraphs_eq_filter_preorder, hnodes, List.filter_cons_of_neg (by simp; rfl)]
    exact filter_isA_paragraph_map_node _

end Mirrors

/-- The node of an element that is no wrapper has the text, the headings and the paragraphs of what
can be seen in it. -/
theorem Element.mirrors_node {e : Element} (hwrapper : e.isWrapper = false) :
    Mirrors e.node e.visible := by
  have hnodes := e.nodes_node hwrapper
  constructor
  · rw [Node.text, hnodes, join_ownText_map_node]
  · rw [Node.headings, Node.findAll, hnodes]
    simpa using filter_isA_heading_map_node e.visible
  · rw [Node.paragraphs, Node.findAll, hnodes]
    simpa using filter_isA_paragraph_map_node e.visible

/-! ### The whole document -/

/-- The classes of nodes that have no children. -/
def leafClasses : List NodeClass :=
  [.text, .lineBreak, .inlineCode, .code, .html, .image]

namespace Element

/-- The node of an element is of a class without children only if the element is a leaf. -/
theorem isLeaf_of_leafClass {e : Element} (hclass : e.node.content.nodeClass ∈ leafClasses) :
    e.role.isLeaf = true := by
  obtain ⟨role, start, content, children⟩ := e
  cases role with
  | inline | heading | paragraph | other =>
    simp [node, Element.role, Element.line, Role.leaf?, Role.branch, Node.content,
      Content.nodeClass, leafClasses] at hclass
  | _ => rfl

/-- A container stands for an element of another structure. -/
theorem role_of_container {e : Element} (hwrapper : e.isWrapper = false) {type : String}
    (hcontent : e.node.content = .container type) : e.role = .other type := by
  obtain ⟨role, start, content, children⟩ := e
  cases role with
  | inline => simp [isWrapper, Element.role] at hwrapper
  | other type' =>
    obtain rfl := Content.container.inj hcontent
    rfl
  | _ => cases hcontent

/-- An element that stands for a heading or a paragraph is no wrapper, and stands for its node. -/
theorem node_of_passage {e : Element} {n : Node}
    (hn : e.heading? = some n ∨ e.paragraph? = some n) : e.isWrapper = false ∧ e.node = n := by
  rw [heading?_eq, paragraph?_eq, Option.ite_none_right_eq_some, Option.ite_none_right_eq_some,
    Bool.and_eq_true, Bool.and_eq_true, Bool.not_eq_true'] at hn
  rcases hn with ⟨⟨hwrapper, _⟩, hnode⟩ | ⟨⟨hwrapper, _⟩, hnode⟩
  · exact ⟨hwrapper, Option.some.inj hnode⟩
  · exact ⟨hwrapper, Option.some.inj hnode⟩

end Element

/-- Every node of a document but its root stands for an element that can be seen and is no
wrapper. -/
theorem exists_element_of_mem_nodes {es : List Element} {n : Node}
    (hn : n ∈ (toDocument es).nodes) (hroot : n.content ≠ .document) :
    ∃ e ∈ visibleAll es, e.isWrapper = false ∧ n = e.node := by
  rw [nodes_toDocument, List.mem_cons] at hn
  rcases hn with rfl | hn
  · exact absurd rfl hroot
  · obtain ⟨e, he, rfl⟩ := List.mem_map.mp hn
    obtain ⟨hmem, hwrapper⟩ := List.mem_filter.mp he
    exact ⟨e, hmem, by simpa using hwrapper, rfl⟩

/-- The document of any elements keeps their prose and structure. Its text, headings and paragraphs
are those of the elements that can be seen, in document order, and so are those of every heading and
every paragraph of it. The tag of a heading tells its depth. Its nodes below the root are those of
the elements that can be seen and are no wrappers, so that no container stands for a wrapper, and
nodes of the leaf classes have no children. -/
theorem toDocument_mirrors_elements (es : List Element) :
    Mirrors (toDocument es) (visibleAll es) ∧
    (∀ e ∈ visibleAll es, ∀ n, e.heading? = some n ∨ e.paragraph? = some n →
      Mirrors n e.visible) ∧
    (∀ digits, tagDepth (String.ofList ('h' :: digits)) = Text.decimalValue digits) ∧
    (toDocument es).nodes =
      toDocument es :: ((visibleAll es).filter (!·.isWrapper)).map Element.node ∧
    (∀ n ∈ (toDocument es).nodes, ∀ type, n.content = .container type →
      ∃ e ∈ visibleAll es, e.role = .other type ∧ n = e.node) ∧
    ∀ n ∈ (toDocument es).nodes, n.content.nodeClass ∈ leafClasses → n.children = [] := by
  refine ⟨mirrors_toDocument es, ?_, ?_, nodes_toDocument es, ?_, ?_⟩
  · intro e _ n hn
    obtain ⟨hwrapper, rfl⟩ := Element.node_of_passage hn
    exact Element.mirrors_node hwrapper
  · intro digits
    rw [tagDepth, String.toList_ofList, List.drop_one, List.tail_cons]
  · intro n hn type hcontent
    have hroot : n.content ≠ .document := by simp [hcontent]
    obtain ⟨e, hmem, hwrapper, rfl⟩ := exists_element_of_mem_nodes hn hroot
    exact ⟨e, hmem, Element.role_of_container hwrapper hcontent, rfl⟩
  · intro n hn hclass
    have hroot : n.content ≠ .document := by
      intro hcontent
      rw [hcontent] at hclass
      exact absurd hclass (by decide)
    obtain ⟨e, _, _, rfl⟩ := exists_element_of_mem_nodes hn hroot
    rw [Element.children_node, if_pos (Element.isLeaf_of_leafClass hclass)]

/-- A heading of prose, the end of a line, emphasis, and an image with an alternative text. -/
def emphaticHeading : Element :=
  .mk (.heading "h02") (some 4) "" [.mk .inline (some 4) "" [
    .mk .text none "A" [], .mk .softBreak none "" [],
    .mk (.other "em") none "" [.mk .text none "b" []],
    .mk (.image "c.png") none "d" [.mk .text none "d" []]]]

/-- Wrappers around and inside a heading vanish, and so does the alternative text; the emphasis
stays, and the heading has its depth and its line. -/
theorem toDocument_mirrors_elements_wrapped :
    (toDocument [.mk .inline none "" [emphaticHeading]]).text = "A\nb" ∧
    ∃ n, (toDocument [.mk .inline none "" [emphaticHeading]]).headings = [n] ∧
      n.content = .heading 2 ∧ n.line = some 5 ∧ n.text = "A\nb" := by
  obtain ⟨hdocument, hinside, _⟩ :=
    toDocument_mirrors_elements [.mk .inline none "" [emphaticHeading]]
  have hseen : emphaticHeading ∈ visibleAll [.mk .inline none "" [emphaticHeading]] :=
    List.mem_cons_of_mem _ List.mem_cons_self
  refine ⟨hdocument.text.trans (by decide), _, hdocument.headings.trans rfl, rfl, rfl, ?_⟩
  exact (hinside emphaticHeading hseen _ (.inl rfl)).text.trans (by decide)

end ProseCheck.Markdown
