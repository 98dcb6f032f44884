/-!
# Texts inside texts
-/

namespace ProseCheck.Text

/-- Whether `part` stands somewhere in a text, in one piece. The empty text stands in every text. -/
def occursIn (part : List Char) : List Char → Bool
  | [] => part.isEmpty
  | c :: s => part.isPrefixOf (c :: s) || occursIn part s

end ProseCheck.Text
