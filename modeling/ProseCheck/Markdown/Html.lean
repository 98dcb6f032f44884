import ProseCheck.Text.Blank
import ProseCheck.Text.Pattern

/-!
# Raw HTML

The pieces of HTML that a source may hold: tags, comments, processing instructions, declarations and
character data sections inside a line, and the seven ways in which a line can start a block of HTML,
each with the lines that end it.
-/

namespace ProseCheck.Markdown

open ProseCheck.Text

/-- Whether `c` is an ASCII letter. -/
def isAsciiLetter (c : Char) : Bool :=
  ('a' ≤ c && c ≤ 'z') || ('A' ≤ c && c ≤ 'Z')

/-- Whether `c` is an ASCII letter or digit. -/
def isAsciiAlphanumeric (c : Char) : Bool :=
  isAsciiLetter c || ('0' ≤ c && c ≤ '9')

namespace Html

open Pattern

/-- Any number of blanks. -/
def blanks : Pattern :=
  many (one isBlank)

/-- The name of a tag. -/
def tagName : Pattern :=
  both (one isAsciiLetter) (many (one fun c => isAsciiAlphanumeric c || c == '-'))

/-- The name of an attribute. -/
def attributeName : Pattern :=
  both (one fun c => isAsciiLetter c || c == '_' || c == ':')
    (many (one fun c => isAsciiAlphanumeric c || c == ':' || c == '.' || c == '_' || c == '-'))

/-- Whether `c` may stand in an attribute value without quotes. -/
def isUnquoted (c : Char) : Bool :=
  0x20 < c.toNat && !(['"', '\x27', '=', '<', '>', '\x60'].contains c)

/-- A text between two equal quotes. -/
def quoted (quote : Char) : Pattern :=
  sequence [char quote, many (one (· != quote)), char quote]

/-- The value of an attribute. -/
def attributeValue : Pattern :=
  either (oneOrMore (one isUnquoted)) (either (quoted '\x27') (quoted '"'))

/-- An attribute with the blanks in front of it. -/
def attributeItem : Pattern :=
  sequence [oneOrMore (one isBlank), attributeName,
    maybe (sequence [blanks, char '=', blanks, attributeValue])]

/-- An opening tag. -/
def openTag : Pattern :=
  sequence [char '<', tagName, many attributeItem, blanks, maybe (char '/'), char '>']

/-- A closing tag. -/
def closeTag : Pattern :=
  sequence [literal "</", tagName, blanks, char '>']

/-- An opening or a closing tag. -/
def tag : Pattern :=
  either openTag closeTag

/-- A comment. -/
def comment : Pattern :=
  either (sequence [literal "<!--", maybe (char '-'), char '>'])
    (sequence [literal "<!--",
      many (either (one (· != '-')) (either (both (char '-') (one (· != '-')))
        (both (literal "--") (one (· != '>'))))),
      literal "-->"])

/-- A declaration. -/
def declaration : Pattern :=
  sequence [literal "<!", one isAsciiLetter, many (one (· != '>')), char '>']

/-- What follows the first `stop` in a text that starts with `start`. -/
def delimited? (start stop : String) (s : List Char) : Option (List Char) :=
  if start.toList.isPrefixOf s then after? stop.toList (s.drop start.length) else none

/-- What is left of a text after the piece of HTML at its start. -/
def piece? (s : List Char) : Option (List Char) :=
  tag.rest? s <|> comment.rest? s <|> delimited? "<?" "?>" s <|> declaration.rest? s <|>
    delimited? "<![CDATA[" "]]>" s

/-- The tags whose content is not read as text. -/
def verbatimTags : List String :=
  ["script", "pre", "style", "textarea"]

/-- The tags that start a block of HTML wherever they stand at the start of a line. -/
def blockTags : List String :=
  ["address", "article", "aside", "base", "basefont", "blockquote", "body", "caption", "center",
    "col", "colgroup", "dd", "details", "dialog", "dir", "div", "dl", "dt", "fieldset",
    "figcaption", "figure", "footer", "form", "frame", "frameset", "h1", "h2", "h3", "h4", "h5",
    "h6", "head", "header", "hr", "html", "iframe", "legend", "li", "link", "main", "menu",
    "menuitem", "nav", "noframes", "ol", "optgroup", "option", "p", "param", "search", "section",
    "summary", "table", "tbody", "td", "tfoot", "th", "thead", "title", "tr", "track", "ul"]

/-- The lower case ASCII letter that `c` stands for when case is ignored. The dotted capital I, the
dotless i, the long s and the Kelvin sign stand for the letters they look like. -/
def foldLetter (c : Char) : Char :=
  if 'A' ≤ c && c ≤ 'Z' then Char.ofNat (c.toNat + 32)
  else if c.toNat == 0x130 || c.toNat == 0x131 then 'i'
  else if c.toNat == 0x17F then 's'
  else if c.toNat == 0x212A then 'k'
  else c

/-- Whether `s` starts with one of `names`, in any case, such that `follow` holds of what is
left. -/
def startsWithName (names : List String) (follow : List Char → Bool) (s : List Char) : Bool :=
  names.any fun name =>
    name.toList.isPrefixOf ((s.take name.length).map foldLetter) && follow (s.drop name.length)

/-- The ways in which a line starts a block of HTML. -/
inductive BlockStart where
  /-- The opening tag of an element whose content is not read as text. -/
  | verbatim
  /-- A comment. -/
  | comment
  /-- A processing instruction. -/
  | instruction
  /-- A declaration. -/
  | declaration
  /-- A character data section. -/
  | characterData
  /-- The opening or closing tag of a block element. -/
  | block
  /-- Any other complete tag on a line of its own. -/
  | anyTag
  deriving DecidableEq, Repr

/-- Whether the name of a tag ends where `s` starts. -/
def endsTagName (s : List Char) : Bool :=
  s.head?.all (fun c => isBlank c || c == '>')

/-- Whether the name of a block tag ends where `s` starts. -/
def endsBlockName (s : List Char) : Bool :=
  endsTagName s || ['/', '>'].isPrefixOf s

/-- How the content of a line starts a block of HTML, if it does. -/
def blockStart? (s : List Char) : Option BlockStart :=
  match s with
  | '<' :: t =>
    if startsWithName verbatimTags endsTagName t then some .verbatim
    else if "!--".toList.isPrefixOf t then some .comment
    else if "?".toList.isPrefixOf t then some .instruction
    else if "!".toList.isPrefixOf t && (t.drop 1).head?.any (fun c => 'A' ≤ c && c ≤ 'Z') then
      some .declaration
    else if "![CDATA[".toList.isPrefixOf t then some .characterData
    else if startsWithName blockTags endsBlockName (if t.head? == some '/' then t.tail else t)
    then some .block
    else if (tag.ends s).any (fun rest => rest.all isBlank) then some .anyTag
    else none
  | _ => none

namespace BlockStart

/-- Whether a block that starts in this way can interrupt a paragraph. -/
def interrupts : BlockStart → Bool
  | anyTag => false
  | _ => true

/-- Whether the content of a line ends a block that started in this way. -/
def isEndedBy : BlockStart → List Char → Bool
  | verbatim, s =>
    (List.range s.length).any fun i =>
      ['<', '/'].isPrefixOf (s.drop i) &&
        startsWithName verbatimTags (fun t => t.head? == some '>') (s.drop (i + 2))
  | comment, s => (after? "-->".toList s).isSome
  | instruction, s => (after? "?>".toList s).isSome
  | declaration, s => s.contains '>'
  | characterData, s => (after? "]]>".toList s).isSome
  | block, s => s.isEmpty
  | anyTag, s => s.isEmpty

end BlockStart

end Html

end ProseCheck.Markdown
