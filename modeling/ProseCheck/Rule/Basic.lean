import ProseCheck.Text.Case
import ProseCheck.Text.Point

/-!
# The catalog of rules

The rules are a closed catalog. A rule has an identifier of words with hyphens between them, which
diagnostics show, and a key of the same words in camel case, which configurations use. A
configuration may also use the identifier, and mixtures of both spellings.
-/

namespace ProseCheck

/-- The rules that documents are checked against. -/
inductive Rule where
  /-- Headings are in sentence case. -/
  | headingCase
  /-- Sentences have enough words. -/
  | minimumWords
  /-- Sentences do not have too many words. -/
  | maxWords
  /-- Paragraphs do not have too many sentences. -/
  | maxSentences
  /-- Some phrases are not used. -/
  | bannedPhrases
  deriving DecidableEq, Repr, Inhabited

namespace Rule

/-- All rules in the order of the catalog. -/
def catalog : List Rule :=
  [headingCase, minimumWords, maxWords, maxSentences, bannedPhrases]

/-- The words of the identifier of a rule. -/
def segments : Rule → List String
  | headingCase => ["heading", "case"]
  | minimumWords => ["minimum", "words", "in", "sentence"]
  | maxWords => ["max", "words", "in", "sentence"]
  | maxSentences => ["max", "sentences", "in", "paragraph"]
  | bannedPhrases => ["banned", "phrases"]

/-- The identifier of a rule, such as `heading-case`. -/
def id (r : Rule) : String :=
  "-".intercalate r.segments

/-- A word with its first letter, an ASCII letter, in upper case. -/
def capitalize (word : String) : String :=
  match word.toList with
  | [] => ""
  | c :: s => String.ofList (c.toUpper :: s)

/-- The key of a rule in a configuration, such as `headingCase`. -/
def key (r : Rule) : String :=
  match r.segments with
  | [] => ""
  | first :: others => String.join (first :: others.map capitalize)

/-- What a rule asks for. -/
def description : Rule → String
  | headingCase => "Headings should be written in sentence case, not title case."
  | minimumWords => "Flag sentences with fewer than `min` words (one diagnostic per sentence)."
  | maxWords => "Flag sentences with more than `limit` words (one diagnostic per sentence)."
  | maxSentences => "Flag paragraphs with more than `limit` sentences (once per paragraph)."
  | bannedPhrases => "Flag paragraphs and headings containing a banned phrase (case-insensitive)."

/-- Whether `c` is an ASCII capital. -/
def isAsciiCapital (c : Char) : Bool :=
  'A' ≤ c && c ≤ 'Z'

/-- Puts a hyphen in front of every ASCII capital. -/
def hyphenateAll (s : List Char) : List Char :=
  s.flatMap fun c => if isAsciiCapital c then ['-', c] else [c]

/-- Puts a hyphen in front of every ASCII capital but the first character. -/
def hyphenate : List Char → List Char
  | [] => []
  | c :: s => c :: hyphenateAll s

/-- The rule that a key of characters names, if any. -/
def ofChars? (key : List Char) : Option Rule :=
  let hyphenated := Text.lower (hyphenate key)
  catalog.find? fun r => r.id.toList == hyphenated

/-- The rule that a key of a configuration names, if any. A key with a surrogate names none. -/
def ofKey? (key : Str) : Option Rule :=
  key.chars?.bind ofChars?

end Rule

end ProseCheck
