import ProseCheck.Markdown.Entity
import ProseCheck.Text.Punctuation

/-!
# Emphasis

Emphasis is marked by runs of `*` and `_`. Whether a run can open or close emphasis depends on the
characters around it; then every mark that can close is paired with the nearest mark before it that
can open, in such a way that pairs nest.
-/

namespace ProseCheck.Markdown

open ProseCheck.Text

/-- Whether `c` separates words beside an emphasis mark. -/
def isMarkSpace (c : Char) : Bool :=
  let n := c.toNat
  (0x09 ≤ n && n ≤ 0x0D) || n == 0x20 || n == 0xA0 || n == 0x1680 || (0x2000 ≤ n && n ≤ 0x200A) ||
    n == 0x202F || n == 0x205F || n == 0x3000

/-- Whether `c` is punctuation beside an emphasis mark. -/
def isMarkPunctuation (c : Char) : Bool :=
  isAsciiPunctuation c || isPunctuation c

/-- Whether a run of the mark `c` between two characters can open and can close emphasis. Inside
of a word an underscore can do neither. -/
def flanking (c before after : Char) : Bool × Bool :=
  let opens := !(isMarkSpace after ||
    (isMarkPunctuation after && !(isMarkSpace before || isMarkPunctuation before)))
  let closes := !(isMarkSpace before ||
    (isMarkPunctuation before && !(isMarkSpace after || isMarkPunctuation after)))
  let splits := c == '*'
  (opens && (splits || !closes || isMarkPunctuation before),
    closes && (splits || !opens || isMarkPunctuation after))

/-- A single emphasis mark. -/
structure Delimiter where
  /-- The mark. -/
  mark : Char
  /-- The length of the run that it belongs to. -/
  runLength : Nat
  /-- The place of the mark among the pieces of the text. -/
  place : Nat
  /-- Whether the mark can open emphasis. -/
  opens : Bool
  /-- Whether the mark can close emphasis. -/
  closes : Bool
  /-- The index of the mark that closes it. -/
  closer : Option Nat
  deriving DecidableEq, Repr, Inhabited

namespace Delimiter

/-- Whether the run lengths forbid to pair two marks: if one of them can both open and close, the
sum of the lengths is no multiple of three unless both lengths are. -/
def mismatch (opener closer : Delimiter) : Bool :=
  (opener.closes || closer.opens) && (opener.runLength + closer.runLength) % 3 == 0 &&
    (opener.runLength % 3 != 0 || closer.runLength % 3 != 0)

/-- What a closing mark has in common with others whose search for an opener fails where its own
search failed. -/
def searchClass (d : Delimiter) : Char × Nat :=
  (d.mark, (if d.opens then 3 else 0) + d.runLength % 3)

end Delimiter

/-- The state of the pairing. Positions in the list of marks are counted from one where zero stands
for the place in front of the first mark. -/
structure Pairing where
  /-- All marks. -/
  marks : Array Delimiter
  /-- For every mark, how many marks before it a search can leave out. -/
  jumps : Array Nat
  /-- Where searches of a class need not look any more. -/
  bottoms : List ((Char × Nat) × Nat)
  /-- The index of the first mark in the current run. -/
  header : Nat
  /-- The place of the mark before, if the current mark could continue its run. -/
  lastPlace : Option Nat

namespace Pairing

/-- The index of the opener for a closing mark, searched from `position` down to `bottom`, in at
most `fuel` steps. -/
def findOpener? (p : Pairing) (closer : Delimiter) (bottom : Nat) :
    (fuel position : Nat) → Option Nat
  | 0, _ => none
  | fuel + 1, position =>
    if position ≤ bottom then none
    else
      let index := position - 1
      let opener := p.marks.getD index default
      if opener.mark == closer.mark && opener.opens && opener.closer.isNone &&
          !opener.mismatch closer then some index
      else findOpener? p closer bottom fuel (index - p.jumps.getD index 0)

/-- Pairs the mark with the given index, if it can close emphasis. -/
def step (p : Pairing) (index : Nat) : Pairing :=
  let closer := p.marks.getD index default
  let header :=
    if (p.marks.getD p.header default).mark != closer.mark ||
        p.lastPlace.map (· + 1) != some closer.place then index
    else p.header
  let p := { p with jumps := p.jumps.push 0, header, lastPlace := some closer.place }
  if !closer.closes then p
  else
    let bottom := (p.bottoms.lookup closer.searchClass).getD 0
    let position := header - p.jumps.getD header 0
    match p.findOpener? closer bottom (position + 1) position with
    | some opener =>
      let jump :=
        if 0 < opener && !(p.marks.getD (opener - 1) default).opens then
          p.jumps.getD (opener - 1) 0 + 1
        else 0
      { p with
        marks := (p.marks.modify index fun d => { d with opens := false }).modify opener fun d =>
          { d with closer := some index, closes := false }
        jumps := (p.jumps.setIfInBounds index (index - opener + jump)).setIfInBounds opener jump
        lastPlace := none }
    | none => { p with bottoms := (closer.searchClass, position) :: p.bottoms }

end Pairing

/-- Pairs opening with closing marks. -/
def pairMarks (marks : Array Delimiter) : Array Delimiter :=
  ((List.range marks.size).foldl Pairing.step
    { marks, jumps := #[], bottoms := [], header := 0, lastPlace := none }).marks

/-- An emphasis that was found: the places of the marks that open and close it. Strong emphasis
takes a second mark on either side. -/
structure Emphasis where
  isStrong : Bool
  opening : Nat
  closing : Nat
  deriving DecidableEq, Repr

/-- The emphasis that paired marks stand for, the marks with an index below `count` being left. Two
pairs whose marks are neighbours on both sides are one strong emphasis. -/
def emphases (marks : Array Delimiter) : (count : Nat) → List Emphasis
  | 0 => []
  | index + 1 =>
    let opener := marks.getD index default
    match opener.closer with
    | none => emphases marks index
    | some closing =>
      let closer := marks.getD closing default
      match index with
      | 0 => [⟨false, opener.place, closer.place⟩]
      | previous + 1 =>
        let outer := marks.getD previous default
        if outer.closer == some (closing + 1) && outer.mark == opener.mark &&
            outer.place + 1 == opener.place &&
            (marks.getD (closing + 1) default).place == closer.place + 1 then
          ⟨true, opener.place, closer.place⟩ :: emphases marks previous
        else ⟨false, opener.place, closer.place⟩ :: emphases marks (previous + 1)

end ProseCheck.Markdown
