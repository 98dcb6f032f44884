import ProseCheck.Text.CaseContext
import ProseCheck.Text.CaseTable

/-!
# Upper and lower case

The full case mappings of texts. The mapping of a character may be several characters, and the
lower case of a capital sigma is the final form when it ends a word: when the nearest character
before it that is not case-ignorable is cased, and the nearest one after it is not.
-/

namespace ProseCheck.Text

/-- The image of the code point `n` under a table of shifts. -/
def shift? : List (Nat × Nat × Nat × Nat) → Nat → Option Nat
  | [], _ => none
  | (first, last, step, image) :: rows, n =>
    if n < first then none
    else if n ≤ last && (n - first) % step == 0 then some (image + (n - first))
    else shift? rows n

/-- The image of the code point `n` under a table of shifts and a table of expansions; a character
that is in neither is its own image. -/
def mapCase (shifts : List (Nat × Nat × Nat × Nat)) (expansions : List (Nat × List Nat))
    (c : Char) : List Char :=
  match shift? shifts c.toNat with
  | some image => [Char.ofNat image]
  | none =>
    match expansions.lookup c.toNat with
    | some images => images.map Char.ofNat
    | none => [c]

/-- The upper case of a character. -/
def upperChar (c : Char) : List Char :=
  mapCase upperShifts upperExpansions c

/-- The lower case of a character on its own; a capital sigma gets its form inside a word. -/
def lowerChar (c : Char) : List Char :=
  mapCase lowerShifts lowerExpansions c

/-- The Greek capital letter sigma. -/
def capitalSigma : Char := Char.ofNat 0x3A3

/-- The form of the Greek small letter sigma at the end of a word. -/
def finalSigma : Char := Char.ofNat 0x3C2

/-- Whether the first character of `s` that is not case-ignorable is cased. -/
def startsCased (s : List Char) : Bool :=
  (s.dropWhile isCaseIgnorable).head?.any isCased

/-- The lower case of a text whose predecessor `cased` tells whether the nearest character before it
that is not case-ignorable is cased. -/
def lowerAfter : Bool → List Char → List Char
  | _, [] => []
  | cased, c :: s =>
    let image :=
      if c = capitalSigma && cased && !startsCased s then [finalSigma] else lowerChar c
    image ++ lowerAfter (if isCaseIgnorable c then cased else isCased c) s

/-- The lower case of a text. -/
def lower (s : List Char) : List Char :=
  lowerAfter false s

/-- The upper case of a text. -/
def upper (s : List Char) : List Char :=
  s.flatMap upperChar

end ProseCheck.Text
