/-!
# Patterns with ordered alternatives

A pattern matches a part of a text that starts at its beginning. `Pattern.ends` lists what is left
of the text after each way to match, the preferred way first: of two alternatives the first is
preferred, and a repetition prefers to go on.
-/

namespace ProseCheck.Text

/-- Shapes of texts. -/
inductive Pattern where
  /-- The empty text. -/
  | nothing
  /-- One character with a property. -/
  | one (property : Char → Bool)
  /-- The first pattern, then the second. -/
  | both (first second : Pattern)
  /-- The first pattern or else the second. -/
  | either (first second : Pattern)
  /-- Any number of repetitions, as many as possible. -/
  | many (body : Pattern)

/-- The texts that are left after up to `fuel` repetitions of a step from `s`, longer repetitions
first, in front of `others`. -/
def repeatEnds (step : List Char → List (List Char)) :
    (fuel : Nat) → (s : List Char) → (others : List (List Char)) → List (List Char)
  | 0, s, others => s :: others
  | fuel + 1, s, others =>
    (step s).foldr (fun t acc => repeatEnds step fuel t acc) (s :: others)

namespace Pattern

/-- What is left of the text after each way to match, preferred ways first. -/
def ends : Pattern → List Char → List (List Char)
  | nothing, s => [s]
  | one property, s =>
    match s with
    | [] => []
    | c :: t => if property c then [t] else []
  | both first second, s => (first.ends s).flatMap second.ends
  | either first second, s => first.ends s ++ second.ends s
  | many body, s => repeatEnds body.ends s.length s []

/-- What is left of the text after the preferred way to match, if there is one. -/
def rest? (p : Pattern) (s : List Char) : Option (List Char) :=
  (p.ends s).head?

/-- The character `c`. -/
def char (c : Char) : Pattern :=
  one (· == c)

/-- The characters of `s` in a row. -/
def literal (s : String) : Pattern :=
  s.toList.foldr (fun c p => both (char c) p) nothing

/-- The patterns one after the other. -/
def sequence (ps : List Pattern) : Pattern :=
  ps.foldr both nothing

/-- The pattern if possible, else nothing. -/
def maybe (p : Pattern) : Pattern :=
  either p nothing

/-- One or more repetitions. -/
def oneOrMore (p : Pattern) : Pattern :=
  both p (many p)

/-- Up to `n` repetitions, as many as possible. -/
def upTo (p : Pattern) : Nat → Pattern
  | 0 => nothing
  | n + 1 => maybe (both p (upTo p n))

end Pattern

/-- What follows the first occurrence of `stop` in a text. -/
def after? (stop : List Char) : List Char → Option (List Char)
  | [] => if stop.isEmpty then some [] else none
  | c :: s =>
    if stop.isPrefixOf (c :: s) then some ((c :: s).drop stop.length) else after? stop s

end ProseCheck.Text
