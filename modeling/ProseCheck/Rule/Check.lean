import ProseCheck.Document.Walk
import ProseCheck.Rule.Basic
import ProseCheck.Text.Sentence
import ProseCheck.Text.Substring

/-!
# Checks

A check is a rule with the arguments that it needs. Run over a document, it flags the nodes that
violate the rule, in document order and a node once for each violation.
-/

namespace ProseCheck

open Document

/-- A rule with its arguments. -/
inductive Check where
  /-- Headings are in sentence case. -/
  | headingCase
  /-- Sentences have at least `min` words. -/
  | minimumWords (min : Int)
  /-- Sentences have at most `limit` words. -/
  | maxWords (limit : Int)
  /-- Paragraphs have at most `limit` sentences. -/
  | maxSentences (limit : Int)
  /-- None of the phrases occurs in a heading or a paragraph, in upper or lower case. -/
  | bannedPhrases (phrases : List String)
  deriving DecidableEq, Repr, Inhabited

namespace Check

/-- The rule of a check. -/
def rule : Check → Rule
  | headingCase => .headingCase
  | minimumWords _ => .minimumWords
  | maxWords _ => .maxWords
  | maxSentences _ => .maxSentences
  | bannedPhrases _ => .bannedPhrases

/-- The sentences of the text of a node. -/
def sentencesOf (n : Node) : List (List Char) :=
  Text.sentences n.text.toList

/-- The headings that are not in sentence case. -/
def flaggedHeadings (tree : Node) : List Node :=
  tree.headings.filter fun heading => !Text.isSentenceCase heading.text.toList

/-- The paragraphs, each once for every sentence whose number of words is `bad`. -/
def flaggedBySentence (bad : Nat → Bool) (tree : Node) : List Node :=
  tree.paragraphs.flatMap fun paragraph =>
    ((sentencesOf paragraph).filter fun s => bad (Text.wordCount s)).map fun _ => paragraph

/-- The paragraphs with more than `limit` sentences. -/
def flaggedByLength (limit : Int) (tree : Node) : List Node :=
  tree.paragraphs.filter fun paragraph => decide (limit < (sentencesOf paragraph).length)

/-- The headings and paragraphs, each once for every phrase that occurs in its text. Phrases that
overlap or repeat count separately. -/
def flaggedByPhrase (phrases : List String) (tree : Node) : List Node :=
  (tree.findAll [.paragraph, .heading]).flatMap fun n =>
    let text := Text.lower n.text.toList
    (phrases.filter fun phrase => Text.occursIn (Text.lower phrase.toList) text).map fun _ => n

/-- The nodes of a document that a check flags. -/
def flagged : Check → Node → List Node
  | headingCase, tree => flaggedHeadings tree
  | minimumWords min, tree => flaggedBySentence (fun n => 0 < n && decide ((n : Int) < min)) tree
  | maxWords limit, tree => flaggedBySentence (fun n => decide (limit < n)) tree
  | maxSentences limit, tree => flaggedByLength limit tree
  | bannedPhrases phrases, tree => flaggedByPhrase phrases tree

end Check

end ProseCheck
