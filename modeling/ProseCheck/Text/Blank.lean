/-!
# Blank characters

The white space that separates words: the ASCII controls of the layout, the information separators,
and the spaces and line separators of Unicode. The zero width space and the byte order mark are not
among them.
-/

namespace ProseCheck.Text

/-- Whether `c` is white space. -/
def isBlank (c : Char) : Bool :=
  let n := c.toNat
  (0x09 ≤ n && n ≤ 0x0D) || (0x1C ≤ n && n ≤ 0x20) || n == 0x85 || n == 0xA0 || n == 0x1680 ||
    (0x2000 ≤ n && n ≤ 0x200A) || n == 0x2028 || n == 0x2029 || n == 0x202F || n == 0x205F ||
    n == 0x3000

/-- Whether `c` is one of the four information separators of ASCII. -/
def isInformationSeparator (c : Char) : Bool :=
  0x1C ≤ c.toNat && c.toNat ≤ 0x1F

/-- `s` without the characters of a class at its two ends. -/
def trimBy (p : Char → Bool) (s : List Char) : List Char :=
  ((s.dropWhile p).reverse.dropWhile p).reverse

/-- `s` without the blank characters at its two ends. -/
def trim (s : List Char) : List Char :=
  trimBy isBlank s

end ProseCheck.Text
