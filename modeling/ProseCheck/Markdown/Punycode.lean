/-!
# Host names in ASCII

Punycode, the encoding of a label of a host name in ASCII: the ASCII characters of the label come
first, and the others follow as a sequence of distances, each written in a variable base that adapts
to their size.
-/

namespace ProseCheck.Markdown.Punycode

/-- The digit with the value `n`, below 36. -/
def digit (n : Nat) : Char :=
  if n < 26 then Char.ofNat ('a'.toNat + n) else Char.ofNat ('0'.toNat + (n - 26))

/-- The value of a digit. -/
def digitValue? (c : Char) : Option Nat :=
  if 'a' ≤ c && c ≤ 'z' then some (c.toNat - 'a'.toNat)
  else if '0' ≤ c && c ≤ '9' then some (c.toNat - '0'.toNat + 26)
  else none

/-- The threshold of the digit at position `k`, a multiple of 36. -/
def threshold (bias k : Nat) : Nat :=
  if k ≤ bias then 1 else if bias + 26 ≤ k then 26 else k - bias

/-- Scales a distance down until it is at most 455, in at most `fuel` steps, and counts 36 a
step. -/
def scale : (fuel k delta : Nat) → Nat × Nat
  | 0, k, delta => (k, delta)
  | fuel + 1, k, delta => if 455 < delta then scale fuel (k + 36) (delta / 35) else (k, delta)

/-- The bias after a distance, with `count` characters in place. -/
def adapt (delta count : Nat) (first : Bool) : Nat :=
  let delta := if first then delta / 700 else delta / 2
  let (k, delta) := scale delta 0 (delta + delta / count)
  k + 36 * delta / (delta + 38)

/-- The digits of a distance, in at most `fuel` digits. -/
def integer (bias : Nat) : (fuel k q : Nat) → List Char
  | 0, _, _ => []
  | fuel + 1, k, q =>
    let t := threshold bias k
    if q < t then [digit q]
    else digit (t + (q - t) % (36 - t)) :: integer bias fuel (k + 36) ((q - t) / (36 - t))

/-- The state of the encoder: the distance so far, the bias, how many characters are in place, and
the output in reverse. -/
structure State where
  delta : Nat
  bias : Nat
  placed : Nat
  output : List Char

/-- Counts the character `c` of the label while the code point `m` is put in place; `basic` is the
number of ASCII characters. -/
def State.visit (basic m : Nat) (st : State) (c : Char) : State :=
  if c.toNat < m then { st with delta := st.delta + 1 }
  else if c.toNat == m then
    { delta := 0, bias := adapt st.delta (st.placed + 1) (st.placed == basic),
      placed := st.placed + 1,
      output := (integer st.bias (st.delta + 1) 36 st.delta).reverse ++ st.output }
  else st

/-- Puts all occurrences of the code points in place, which are in increasing order and above
`n`. -/
def place (label : List Char) (basic : Nat) : (n : Nat) → List Nat → State → State
  | _, [], st => st
  | n, m :: ms, st =>
    let st := { st with delta := st.delta + (m - n) * (st.placed + 1) }
    let st := label.foldl (State.visit basic m) st
    place label basic (m + 1) ms { st with delta := st.delta + 1 }

/-- Encodes a label. -/
def encode (label : List Char) : List Char :=
  let basic := label.filter (fun c => c.toNat < 128)
  let others := ((label.filter (fun c => 128 ≤ c.toNat)).map Char.toNat).eraseDups.mergeSort
  let st := place label basic.length 128 others ⟨0, 72, basic.length, []⟩
  (if basic.isEmpty then [] else basic ++ ['-']) ++ st.output.reverse

/-- Reads a distance: its value and the digits after it. -/
def readInteger? (bias : Nat) : (k weight value : Nat) → List Char → Option (Nat × List Char)
  | _, _, _, [] => none
  | k, weight, value, c :: s =>
    match digitValue? c with
    | none => none
    | some d =>
      let t := threshold bias k
      let value := value + d * weight
      if d < t then some (value, s) else readInteger? bias (k + 36) (weight * (36 - t)) value s

/-- Inserts the characters that the digits describe into the label, in at most `fuel` steps; `n` is
the code point and `i` the index of the last insertion. -/
def insertAll? : (fuel : Nat) → (label : List Char) → (n i bias : Nat) → (first : Bool) →
    List Char → Option (List Char)
  | 0, label, _, _, _, _, _ => some label
  | _, label, _, _, _, _, [] => some label
  | fuel + 1, label, n, i, bias, first, digits =>
    match readInteger? bias 36 1 0 digits with
    | none => none
    | some (delta, rest) =>
      let size := label.length + 1
      let n := n + (i + delta) / size
      let i := (i + delta) % size
      if 0x110000 ≤ n then none
      else
        insertAll? fuel (label.take i ++ Char.ofNat n :: label.drop i) n (i + 1)
          (adapt delta size first) false rest

/-- Decodes a label, if it is well formed. -/
def decode? (label : List Char) : Option (List Char) :=
  let digits := (label.reverse.takeWhile (· != '-')).reverse
  let basic := (label.take (label.length - digits.length)).dropLast
  if basic.all (fun c => c.toNat < 128) then
    insertAll? label.length basic 128 0 72 true digits
  else none

end ProseCheck.Markdown.Punycode
