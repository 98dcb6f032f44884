/-!
# Sets of characters given by ranges

A character property is stored as a list of pairs of code points, each pair the first and the last
member of a run. The lists are increasing, so a search stops at the first run that starts beyond
the character.
-/

namespace ProseCheck.Text

/-- Whether the code point `n` lies in one of the increasing runs `ranges`. -/
def inRanges : List (Nat × Nat) → Nat → Bool
  | [], _ => false
  | (first, last) :: ranges, n =>
    if n < first then false else if n ≤ last then true else inRanges ranges n

end ProseCheck.Text
