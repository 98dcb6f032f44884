import ProseCheck.Text.Case
import ProseCheck.Text.Fields

/-!
# Sentences and sentence case

A sentence is what stands between runs of the terminators `.`, `!` and `?`. Abbreviations, decimal
numbers and quoted punctuation are not exempt. A text is in sentence case when it begins with a
capital and fewer than half of its pieces are capitalised words after the first piece.
-/

namespace ProseCheck.Text

/-- Whether `c` ends a sentence. -/
def isTerminator (c : Char) : Bool :=
  c == '.' || c == '!' || c == '?'

/-- The sentences of `s`: what stands between maximal runs of terminators, trimmed, without the
empty ones. -/
def sentences (s : List Char) : List (List Char) :=
  ((pieces isTerminator s).map trim).filter (fun t => !t.isEmpty)

/-- The number of words of `s`. -/
def wordCount (s : List Char) : Nat :=
  (words s).length

/-- Whether a word begins with a character that is its own upper case. A digit is, so `42` counts as
capitalised; an empty word does not. -/
def isCapitalized : List Char → Bool
  | [] => false
  | c :: _ => upperChar c == [c]

/-- Whether `s` reads as sentence case and not as title case. The pieces are cut at runs of blanks,
so that blanks at either end add an empty piece to the total. -/
def isSentenceCase (s : List Char) : Bool :=
  if s.isEmpty then true
  else if !isCapitalized s then false
  else
    let ps := pieces isBlank s
    ps.length ≤ 1 || decide (2 * (ps.tail.filter isCapitalized).length < ps.length)

end ProseCheck.Text
