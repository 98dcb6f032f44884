import ProseCheck.Markdown.Block
import ProseCheck.Markdown.Inline

/-!
# Reading Markdown

A reader of Markdown gives the elements of a source, which make a document. The reader of
CommonMark reads first the blocks and definitions of a source, then the content of each block, whose
links may refer to definitions anywhere in the source.
-/

namespace ProseCheck.Markdown

/-- The elements of a source. -/
def sourceElements (source : String) : Except Fault (List Element) :=
  (sourceBlocks source.toList).map fun blocks =>
    mapInlineAll (inlineElements maxNesting blocks.definitions) blocks.elements

/-- The wording of a fault. -/
def Fault.message : Fault → String
  | .cutShort => "string index out of range"

/-- A reader of Markdown: the elements of a source, or what is wrong with it in words. -/
abbrev Reader := String → Except String (List Element)

/-- The reader of CommonMark. -/
def commonMark : Reader := fun source =>
  (sourceElements source).mapError Fault.message

/-- The document of a source. -/
def parse (reader : Reader) (source : String) : Except String Document.Node :=
  (reader source).map toDocument

end ProseCheck.Markdown
