import ProseCheck.Proofs.Segmentation
import ProseCheck.Proofs.Walk
import ProseCheck.Rule.Check
import Mathlib.Data.Int.Notation
import Mathlib.Data.List.Infix

/-!
# Violations of a check

How often a node violates a check is a matter of that node alone. A check over a document flags the
nodes of its preorder, each as often as it violates the check.
-/

namespace ProseCheck

open Document

namespace Text

/-- A text occurs in another one exactly when it is a contiguous part of it. -/
theorem occursIn_iff_isInfix (part s : List Char) : occursIn part s = true ↔ part <:+: s := by
  induction s with
  | nil => simp [occursIn]
  | cons c s ih => simp [occursIn, ih, List.infix_cons_iff]

/-- The search for a text decides whether it is a contiguous part. -/
theorem occursIn_eq_decide (part s : List Char) : occursIn part s = decide (part <:+: s) := by
  rw [Bool.eq_iff_iff, occursIn_iff_isInfix, decide_eq_true_iff]

end Text

namespace Check

/-- The number of times a node violates a check. Only headings and paragraphs do. -/
def violations : Check → Node → ℕ
  | headingCase, n => if n.isA .heading && !Text.isSentenceCase n.text.toList then 1 else 0
  | minimumWords min, n =>
    if n.isA .paragraph then
      (sentencesOf n).countP fun s => decide ((Text.wordCount s : ℤ) < min)
    else 0
  | maxWords limit, n =>
    if n.isA .paragraph then
      (sentencesOf n).countP fun s => decide (limit < (Text.wordCount s : ℤ))
    else 0
  | maxSentences limit, n =>
    if n.isA .paragraph && decide (limit < ((sentencesOf n).length : ℤ)) then 1 else 0
  | bannedPhrases phrases, n =>
    if n.isA .paragraph || n.isA .heading then
      phrases.countP fun phrase =>
        decide (Text.lower phrase.toList <:+: Text.lower n.text.toList)
    else 0

/-- Filtering twice keeps each element once or not at all. -/
private theorem filter_filter_eq_flatMap {α : Type} (p q : α → Bool) (l : List α) :
    (l.filter p).filter q = l.flatMap fun a => List.replicate (if p a && q a then 1 else 0) a := by
  induction l with
  | nil => simp
  | cons a l ih => by_cases hp : p a <;> by_cases hq : q a <;> simp [hp, hq, ih]

/-- Listing an element once for each of its parts that are counted. -/
private theorem flatMap_map_const {α β : Type} (p : α → Bool) (parts : α → List β)
    (counted : α → β → Bool) (l : List α) :
    (l.filter p).flatMap (fun a => ((parts a).filter (counted a)).map fun _ => a) =
      l.flatMap fun a =>
        List.replicate (if p a then (parts a).countP (counted a) else 0) a := by
  induction l with
  | nil => simp
  | cons a l ih =>
    by_cases ha : p a
    · have hparts : ((parts a).filter (counted a)).map (fun _ => a) =
          List.replicate ((parts a).countP (counted a)) a := by
        rw [List.map_const', List.countP_eq_length_filter]
      simp only [List.filter_cons_of_pos ha, List.flatMap_cons, if_pos ha, hparts, ih]
    · rw [List.filter_cons_of_neg ha, ih, List.flatMap_cons, if_neg ha]
      rfl

/-- The bounds on a sentence's words count what they say, for every sentence has a word. -/
private theorem countP_minimumWords (min : ℤ) (n : Node) :
    (sentencesOf n).countP
        (fun s => 0 < Text.wordCount s && decide ((Text.wordCount s : ℤ) < min)) =
      (sentencesOf n).countP fun s => decide ((Text.wordCount s : ℤ) < min) := by
  apply List.countP_congr
  intro s hs
  simp [Text.wordCount_pos_of_mem_sentences hs]

/-- A check flags the nodes of a document in preorder, each as often as it violates the check. -/
theorem flagged_eq_flatMap_violations (check : Check) (tree : Node) :
    check.flagged tree =
      tree.preorder.flatMap fun n => List.replicate (check.violations n) n := by
  cases check with
  | headingCase =>
    rw [flagged, flaggedHeadings, Node.headings_eq_filter_preorder, filter_filter_eq_flatMap]
    rfl
  | minimumWords min =>
    rw [flagged, flaggedBySentence, Node.paragraphs_eq_filter_preorder, flatMap_map_const]
    simp only [violations, countP_minimumWords]
  | maxWords limit =>
    rw [flagged, flaggedBySentence, Node.paragraphs_eq_filter_preorder, flatMap_map_const]
    rfl
  | maxSentences limit =>
    rw [flagged, flaggedByLength, Node.paragraphs_eq_filter_preorder, filter_filter_eq_flatMap]
    rfl
  | bannedPhrases phrases =>
    rw [flagged, flaggedByPhrase, Node.findAll_eq_filter_preorder, flatMap_map_const]
    simp only [violations, List.any_cons, List.any_nil, Bool.or_false, Text.occursIn_eq_decide]

/-- A node that is neither a heading nor a paragraph violates nothing. -/
theorem violations_eq_zero {n : Node} (hheading : n.isA .heading = false)
    (hparagraph : n.isA .paragraph = false) (check : Check) : check.violations n = 0 := by
  cases check <;> simp [violations, hheading, hparagraph]

end Check

end ProseCheck
