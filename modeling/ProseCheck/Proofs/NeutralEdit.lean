import ProseCheck.Proofs.Linting
import ProseCheck.Proofs.Violation
import Mathlib.Data.List.Forall2
import Mathlib.Logic.Relation

/-!
# Edits that leave the prose alone

Checks see of a document its headings and paragraphs only, and of those their lines and texts. An
edit that adds or removes nodes without prose, cuts a text in two, or puts nodes into a container
changes none of that, wherever in the tree it is made. So it changes neither the text of a document
nor its diagnostics.
-/

namespace ProseCheck.Document

/-! ### What checks see -/

/-- The text of a list of trees. -/
def textAll (ns : List Node) : String :=
  String.join ((preorderAll ns).map fun m => m.content.ownText)

/-- What checks see of a heading or a paragraph. -/
structure Passage where
  heading : Bool
  paragraph : Bool
  line : ℤ
  text : String

namespace Node

/-- Whether a node is a heading or a paragraph. -/
def isPassage (n : Node) : Bool :=
  n.isA .heading || n.isA .paragraph

/-- What checks would see of a node. -/
def passage (n : Node) : Passage :=
  ⟨n.isA .heading, n.isA .paragraph, n.lineNumber, n.text⟩

end Node

/-- The passages of a list of trees in document order. -/
def passagesAll (ns : List Node) : List Passage :=
  ((preorderAll ns).filter Node.isPassage).map Node.passage

/-- The text of a node is its own text and then that of its children. -/
theorem Node.text_mk (content : Content) (line : Option ℤ) (children : List Node) :
    (Node.mk content line children).text = content.ownText ++ textAll children := by
  rw [Node.text, Node.nodes_eq_preorder, Node.preorder, List.map_cons, String.join_cons]
  rfl

/-- The text of a tree is that of the list which has only this tree. -/
theorem textAll_singleton (n : Node) : textAll [n] = n.text := by
  rw [textAll, preorderAll_singleton, Node.text, Node.nodes_eq_preorder]

/-- The text of joined lists of nodes. -/
theorem textAll_append (left right : List Node) :
    textAll (left ++ right) = textAll left ++ textAll right := by
  rw [textAll, preorderAll_append, List.map_append, String.join_append]
  rfl

/-- The passages of joined lists of nodes. -/
theorem passagesAll_append (left right : List Node) :
    passagesAll (left ++ right) = passagesAll left ++ passagesAll right := by
  rw [passagesAll, preorderAll_append, List.filter_append, List.map_append]
  rfl

/-- The passages of a tree are its root, if it is one, and those of its children. -/
theorem passagesAll_mk (content : Content) (line : Option ℤ) (children : List Node) :
    passagesAll [.mk content line children] =
      (if (Node.mk content line children).isPassage then [(Node.mk content line children).passage]
        else []) ++ passagesAll children := by
  rw [passagesAll, preorderAll_singleton, Node.preorder, List.filter_cons]
  split
  · rfl
  · rfl

/-! ### The same prose -/

/-- Two lists of trees have the same text and the same passages. -/
structure SameProse (ns ns' : List Node) : Prop where
  text : textAll ns = textAll ns'
  passages : passagesAll ns = passagesAll ns'

namespace SameProse

variable {ns ns' left left' right right' : List Node}

/-- Every list of nodes has its own prose. -/
theorem refl (ns : List Node) : SameProse ns ns :=
  ⟨rfl, rfl⟩

/-- Having the same prose goes both ways. -/
theorem symm (h : SameProse ns ns') : SameProse ns' ns :=
  ⟨h.text.symm, h.passages.symm⟩

/-- Having the same prose goes on. -/
theorem trans {ns'' : List Node} (h : SameProse ns ns') (h' : SameProse ns' ns'') :
    SameProse ns ns'' :=
  ⟨h.text.trans h'.text, h.passages.trans h'.passages⟩

/-- Siblings with the same prose may be exchanged next to each other. -/
theorem append (hleft : SameProse left left') (hright : SameProse right right') :
    SameProse (left ++ right) (left' ++ right') := by
  constructor
  · rw [textAll_append, textAll_append, hleft.text, hright.text]
  · rw [passagesAll_append, passagesAll_append, hleft.passages, hright.passages]

/-- Children with the same prose may be exchanged below a node. The text of the node stays, and so
does what checks see of it. -/
theorem inside (content : Content) (line : Option ℤ) (h : SameProse ns ns') :
    SameProse [.mk content line ns] [.mk content line ns'] := by
  have htext : (Node.mk content line ns).text = (Node.mk content line ns').text := by
    rw [Node.text_mk, Node.text_mk, h.text]
  have hpassage : (Node.mk content line ns).passage = (Node.mk content line ns').passage := by
    rw [Node.passage, Node.passage, htext]
    rfl
  constructor
  · rw [textAll_singleton, textAll_singleton, htext]
  · rw [passagesAll_mk, passagesAll_mk, hpassage, h.passages]
    rfl

end SameProse

/-! ### Edits -/

/-- A tree has no headings, no paragraphs and no text: all its text nodes are empty. -/
def Node.IsMute (n : Node) : Prop :=
  ∀ m ∈ n.nodes, m.isA .heading = false ∧ m.isA .paragraph = false ∧
    ∀ value, m.content = .text value → value = ""

/-- One edit of a list of siblings, in the list itself or anywhere below it. -/
inductive Edit : List Node → List Node → Prop where
  /-- A tree without prose is inserted. -/
  | insert {n : Node} (hn : n.IsMute) : Edit [] [n]
  /-- A text is cut in two. -/
  | cut (u v : String) (line line₁ line₂ : Option ℤ) :
      Edit [.mk (.text (u ++ v)) line []] [.mk (.text u) line₁ [], .mk (.text v) line₂ []]
  /-- Siblings are wrapped in a container. -/
  | wrap (type : String) (line : Option ℤ) (ns : List Node) :
      Edit ns [.mk (.container type) line ns]
  /-- An edit is taken back. -/
  | undo {ns ns' : List Node} (h : Edit ns ns') : Edit ns' ns
  /-- An edit is made between siblings. -/
  | among (before after : List Node) {ns ns' : List Node} (h : Edit ns ns') :
      Edit (before ++ ns ++ after) (before ++ ns' ++ after)
  /-- An edit is made below a node. -/
  | inside (content : Content) (line : Option ℤ) {ns ns' : List Node} (h : Edit ns ns') :
      Edit [.mk content line ns] [.mk content line ns']

/-- A document is edited below its root. -/
inductive Node.Edited : Node → Node → Prop where
  | mk (content : Content) (line : Option ℤ) {ns ns' : List Node} (h : Edit ns ns') :
      Edited (.mk content line ns) (.mk content line ns')

/-- A tree without prose has the prose of no tree at all. -/
theorem Node.IsMute.sameProse {n : Node} (hn : n.IsMute) : SameProse [] [n] := by
  have hnodes : ∀ m ∈ preorderAll [n], m.content.ownText = "" ∧ m.isPassage = false := by
    intro m hm
    rw [preorderAll_singleton, ← Node.nodes_eq_preorder] at hm
    obtain ⟨hheading, hparagraph, htext⟩ := hn m hm
    constructor
    · cases hcontent : m.content with
      | text value => exact htext value hcontent
      | _ => rfl
    · rw [Node.isPassage, hheading, hparagraph, Bool.or_false]
  have htext : textAll [n] = "" := by
    rw [← String.toList_inj, textAll, String.toList_join, List.flatMap_map, String.toList_empty,
      List.flatMap_eq_nil_iff]
    intro m hm
    rw [(hnodes m hm).1, String.toList_empty]
  have hpassages : (preorderAll [n]).filter Node.isPassage = [] := by
    rw [List.filter_eq_nil_iff]
    intro m hm
    simp [(hnodes m hm).2]
  constructor
  · rw [htext]
    rfl
  · rw [passagesAll, passagesAll, hpassages]
    rfl

/-- A node that is no passage and has no text of its own has the prose of its children. -/
theorem sameProse_of_ownText_eq_empty {content : Content} {line : Option ℤ} {ns : List Node}
    (htext : content.ownText = "") (hpassage : (Node.mk content line ns).isPassage = false) :
    SameProse ns [.mk content line ns] := by
  constructor
  · rw [textAll_singleton, Node.text_mk, htext, String.empty_append]
  · rw [passagesAll_mk, hpassage]
    rfl

/-- A text has the prose of its two parts. -/
theorem sameProse_cut (u v : String) (line line₁ line₂ : Option ℤ) :
    SameProse [.mk (.text (u ++ v)) line []]
      [.mk (.text u) line₁ [], .mk (.text v) line₂ []] := by
  have htext (w : String) (l : Option ℤ) : textAll [.mk (.text w) l []] = w := by
    rw [textAll_singleton, Node.text_mk]
    exact String.append_empty
  have hpassages (w : String) (l : Option ℤ) : passagesAll [.mk (.text w) l []] = [] := rfl
  have hparts : [Node.mk (.text u) line₁ [], Node.mk (.text v) line₂ []] =
      [Node.mk (.text u) line₁ []] ++ [Node.mk (.text v) line₂ []] := rfl
  constructor
  · rw [hparts, textAll_append, htext, htext, htext]
  · rw [hparts, passagesAll_append, hpassages, hpassages, hpassages]
    rfl

/-- An edit keeps the prose: one case for each kind of edit. -/
theorem Edit.sameProse {ns ns' : List Node} (h : Edit ns ns') : SameProse ns ns' := by
  induction h with
  | insert hn => exact hn.sameProse
  | cut u v line line₁ line₂ => exact sameProse_cut u v line line₁ line₂
  | wrap type line ns => exact sameProse_of_ownText_eq_empty rfl rfl
  | undo _ ih => exact ih.symm
  | among before after _ ih => exact ((SameProse.refl before).append ih).append (.refl after)
  | inside content line _ ih => exact ih.inside content line

/-- Any number of edits keeps the prose of a document. -/
theorem sameProse_of_edits {tree tree' : Node}
    (hedits : Relation.ReflTransGen Node.Edited tree tree') : SameProse [tree] [tree'] := by
  induction hedits with
  | refl => exact .refl _
  | tail _ hedited ih =>
    obtain ⟨content, line, h⟩ := hedited
    exact ih.trans (h.sameProse.inside content line)

/-! ### Removing empty texts -/

/-- An edit among siblings may be made any number of times. -/
theorem edits_among (before after : List Node) {ns ns' : List Node}
    (h : Relation.ReflTransGen Edit ns ns') :
    Relation.ReflTransGen Edit (before ++ ns ++ after) (before ++ ns' ++ after) :=
  h.lift (fun l => before ++ l ++ after) fun _ _ hedit => hedit.among before after

/-- An empty text without children has no prose. -/
theorem isMute_of_emptyText {n : Node} (hcontent : n.content = .text "")
    (hchildren : n.children = []) : n.IsMute := by
  obtain ⟨content, line, children⟩ := n
  obtain rfl : content = .text "" := hcontent
  obtain rfl : children = [] := hchildren
  intro m hm
  obtain rfl : m = .mk (.text "") line [] := by
    rw [Node.nodes_eq_preorder, Node.preorder, preorderAll] at hm
    exact List.mem_singleton.mp hm
  refine ⟨rfl, rfl, fun value hvalue => ?_⟩
  exact (Content.text.inj hvalue).symm

/-- The empty texts of a list of trees are removed by edits. A tree that stays is edited below its
root. -/
theorem edits_pruneAll (ns : List Node) : Relation.ReflTransGen Edit ns (pruneAll ns) := by
  induction ns using pruneAll.induct
    (fun n => Relation.ReflTransGen Edit n.children n.prune.children) with
  | case1 content line children ih => exact ih
  | case2 => exact .refl
  | case3 n ns hempty ih =>
    rw [Bool.and_eq_true, decide_eq_true_iff, List.isEmpty_iff] at hempty
    -- Removing a tree without prose is taking back its insertion.
    have hdrop : Edit ([] ++ [n] ++ ns) ([] ++ [] ++ ns) :=
      ((Edit.insert (isMute_of_emptyText hempty.1 hempty.2)).undo).among [] ns
    rw [pruneAll, if_pos (by simp [hempty])]
    exact .head hdrop ih
  | case4 n ns hempty ih ih' =>
    have hbelow : Relation.ReflTransGen Edit [n] [n.prune] := by
      obtain ⟨content, line, children⟩ := n
      exact ih.lift (fun l => [Node.mk content line l]) fun _ _ hedit => hedit.inside content line
    have hhead := edits_among [] ns hbelow
    have htail := edits_among [n.prune] [] ih'
    rw [List.append_nil, List.append_nil] at htail
    rw [pruneAll, if_neg hempty]
    exact hhead.trans htail

/-- The empty texts of a document are removed by edits. -/
theorem Node.edits_prune (tree : Node) : Relation.ReflTransGen Node.Edited tree tree.prune := by
  obtain ⟨content, line, children⟩ := tree
  exact (edits_pruneAll children).lift (Node.mk content line) fun _ _ hedit =>
    .mk content line hedit

end ProseCheck.Document

/-! ### The same diagnostics -/

namespace ProseCheck

open Document

/-- How often a node violates a check depends on its passage alone. -/
theorem Check.violations_congr (check : Check) {n n' : Node} (h : n.passage = n'.passage) :
    check.violations n = check.violations n' := by
  obtain ⟨hheading, hparagraph, _, htext⟩ := Passage.mk.inj h
  have hsentences : sentencesOf n = sentencesOf n' := by rw [sentencesOf, sentencesOf, htext]
  cases check <;> simp [violations, hheading, hparagraph, htext, hsentences]

/-- Elements that contribute nothing may be left out of a concatenation. -/
private theorem flatMap_filter_of_eq_nil {α β : Type} {p : α → Bool} {f : α → List β}
    (hnil : ∀ a, p a = false → f a = []) (l : List α) : (l.filter p).flatMap f = l.flatMap f := by
  induction l with
  | nil => rfl
  | cons a l ih =>
    cases hp : p a with
    | true => rw [List.filter_cons_of_pos hp, List.flatMap_cons, List.flatMap_cons, ih]
    | false =>
      rw [List.filter_cons_of_neg (by simp [hp]), ih, List.flatMap_cons, hnil a hp, List.nil_append]

/-- Lists that agree under one function agree under another one that depends on it. -/
private theorem map_eq_map_of_factors {α β γ : Type} {f : α → β} {g : α → γ}
    (hfactors : ∀ a a', f a = f a' → g a = g a') {l l' : List α} (h : l.map f = l'.map f) :
    l.map g = l'.map g := by
  rw [← List.forall₂_eq_eq_eq, List.forall₂_map_left_iff, List.forall₂_map_right_iff] at h ⊢
  exact h.imp hfactors

namespace Assignment

/-- The diagnostics of an assignment come from the headings and paragraphs of a document. -/
theorem diagnostics_eq_flatMap (a : Assignment) (tree : Node) :
    a.diagnostics tree = (tree.preorder.filter Node.isPassage).flatMap fun n =>
      List.replicate (a.check.violations n) (Linter.diagnostic a.rule a.entry n) := by
  have hnil (n : Node) (hn : n.isPassage = false) :
      List.replicate (a.check.violations n) (Linter.diagnostic a.rule a.entry n) = [] := by
    rw [Node.isPassage, Bool.or_eq_false_iff] at hn
    rw [Check.violations_eq_zero hn.1 hn.2, List.replicate_zero]
  rw [flatMap_filter_of_eq_nil hnil, diagnostics, Check.flagged_eq_flatMap_violations,
    List.map_flatMap]
  simp only [List.map_replicate]

/-- Documents with the same passages have the same diagnostics. -/
theorem diagnostics_congr (a : Assignment) {tree tree' : Node}
    (h : passagesAll [tree] = passagesAll [tree']) : a.diagnostics tree = a.diagnostics tree' := by
  rw [passagesAll, passagesAll, preorderAll_singleton, preorderAll_singleton] at h
  rw [diagnostics_eq_flatMap, diagnostics_eq_flatMap, List.flatMap_def, List.flatMap_def]
  refine congrArg List.flatten (map_eq_map_of_factors (fun n n' hn => ?_) h)
  have hline : n.lineNumber = n'.lineNumber := congrArg Passage.line hn
  rw [a.check.violations_congr hn, Linter.diagnostic, Linter.diagnostic, hline]

end Assignment

/-- Documents with the same prose have the same result of linting. -/
theorem Config.Wellformed.lint_congr {c : Config} (hc : c.Wellformed) {tree tree' : Node}
    (h : SameProse [tree] [tree']) :
    (Linter.standard c).lint tree = (Linter.standard c).lint tree' := by
  have hdiagnostics : Assignment.diagnostics tree = Assignment.diagnostics tree' :=
    funext fun a => a.diagnostics_congr h.passages
  rw [hc.lint_eq, hc.lint_eq, hdiagnostics]

/-- Any number of edits leaves the text of a document and its diagnostics under an accepted
configuration alone. So does the removal of the empty texts of a document. -/
theorem Linter.lint_eq_of_edits {c : Config} (hc : c.Accepted) {tree tree' : Node}
    (hedits : Relation.ReflTransGen Node.Edited tree tree') :
    (∃ ds, (Linter.standard c).lint tree = .ok ds ∧ (Linter.standard c).lint tree' = .ok ds ∧
      (Linter.standard c).lint tree.prune = .ok ds) ∧
    tree'.text = tree.text ∧ tree.prune.text = tree.text := by
  have hwf := hc.wellformed
  have hedited := sameProse_of_edits hedits
  have hpruned := sameProse_of_edits tree.edits_prune
  refine ⟨⟨_, hwf.lint_eq tree, ?_, ?_⟩, ?_, ?_⟩
  · rw [← hwf.lint_congr hedited, hwf.lint_eq]
  · rw [← hwf.lint_congr hpruned, hwf.lint_eq]
  · rw [← textAll_singleton, ← textAll_singleton, hedited.text]
  · rw [← textAll_singleton, ← textAll_singleton, hpruned.text]

/-- A paragraph of one text that is followed by an empty one. -/
def plainParagraph : Node :=
  .mk .document none [.mk .paragraph (some 2) [
    .mk (.text "It has been done.") none [], .mk (.text "") none []]]

/-- The same paragraph in bold, with code in the middle of the text. -/
def boldParagraph : Node :=
  .mk .document none [.mk .paragraph (some 2) [
    .mk (.container "strong") (some 7) [
      .mk (.text "It has ") none [], .mk (.inlineCode "never") none [],
      .mk (.text "been done.") (some 3) []],
    .mk (.text "") none []]]

/-- The text is cut, the code is inserted, and both parts are wrapped with it. -/
theorem edits_plainParagraph :
    Relation.ReflTransGen Node.Edited plainParagraph boldParagraph := by
  have hcode : (Node.mk (.inlineCode "never") none []).IsMute := by
    intro m hm
    obtain rfl := List.mem_singleton.mp hm
    exact ⟨rfl, rfl, nofun⟩
  have hcut := (Edit.cut "It has " "been done." none none (some 3)).among []
    [.mk (.text "") none []]
  have hinsert := (Edit.insert hcode).among [.mk (.text "It has ") none []]
    [.mk (.text "been done.") (some 3) [], .mk (.text "") none []]
  have hwrap := (Edit.wrap "strong" (some 7) [.mk (.text "It has ") none [],
    .mk (.inlineCode "never") none [], .mk (.text "been done.") (some 3) []]).among []
      [.mk (.text "") none []]
  have hbelow {ns ns' : List Node} (h : Edit ns ns') :
      Node.Edited (.mk .document none [.mk .paragraph (some 2) ns])
        (.mk .document none [.mk .paragraph (some 2) ns']) :=
    .mk .document none (h.inside .paragraph (some 2))
  exact .tail (.tail (.single (hbelow hcut)) (hbelow hinsert)) (hbelow hwrap)

/-- Formatting a paragraph does not change what the built-in configuration reports. -/
theorem Linter.lint_eq_of_edits_default :
    Config.default.Accepted ∧ Relation.ReflTransGen Node.Edited plainParagraph boldParagraph ∧
      (∃ ds, (Linter.standard Config.default).lint plainParagraph = .ok ds ∧
        (Linter.standard Config.default).lint boldParagraph = .ok ds ∧
        (Linter.standard Config.default).lint plainParagraph.prune = .ok ds) ∧
      boldParagraph.text = plainParagraph.text := by
  obtain ⟨hlint, htext, _⟩ :=
    Linter.lint_eq_of_edits Config.accepted_default edits_plainParagraph
  exact ⟨Config.accepted_default, edits_plainParagraph, hlint, htext⟩

end ProseCheck
