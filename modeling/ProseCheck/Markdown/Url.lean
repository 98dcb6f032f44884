import ProseCheck.Markdown.Entity
import ProseCheck.Markdown.Html
import ProseCheck.Markdown.Punycode
import ProseCheck.Text.Case
import ProseCheck.Text.Fields

/-!
# Addresses

The addresses of links and images: how they are normalised for the page, which of them are refused,
and how the text of an automatic link shows them.
-/

namespace ProseCheck.Markdown

open ProseCheck.Text

/-- An address split into its parts. -/
structure Url where
  /-- The scheme with its colon, empty if there is none. -/
  scheme : List Char
  /-- Whether two slashes follow the scheme. -/
  slashes : Bool
  /-- What stands before the host and an at sign. -/
  user : List Char
  /-- The host. -/
  host : List Char
  /-- The digits after the host and a colon, which tell the endpoint. -/
  endpoint : List Char
  /-- Everything after the host and the endpoint. -/
  tail : List Char
  deriving Repr

namespace Url

/-- The scheme of an address with its colon. -/
def readScheme (s : List Char) : List Char :=
  let name := s.takeWhile fun c => isAsciiAlphanumeric c || c == '.' || c == '+' || c == '-'
  match s.drop name.length with
  | ':' :: _ => if name.isEmpty then [] else name ++ [':']
  | _ => []

/-- Whether `c` ends the part of an address in which a user name can stand. -/
def endsAuthority (c : Char) : Bool :=
  c == '/' || c == '?' || c == '#'

/-- Whether `c` cannot stand in a host. -/
def endsHost (c : Char) : Bool :=
  ['%', '/', '?', ';', '#', '\x27', '\x7b', '\x7d', '|', '\\', '^', '\x60', '<', '>', '"', ' ',
    '\r', '\n', '\t'].contains c

/-- Whether `c` may stand in a label of a host. -/
def isLabelChar (c : Char) : Bool :=
  isAsciiAlphanumeric c || c == '+' || c == '_' || c == '-'

/-- Whether a label of a host is acceptable, any character beyond ASCII counting as a letter. -/
def isLabel (s : List Char) : Bool :=
  s.length ≤ 63 && s.all fun c => isLabelChar c || 127 < c.toNat

/-- Splits the labels of a host at the first one that is not acceptable: what belongs to the host,
and what does not. -/
def splitLabels : List (List Char) → List (List Char) × List (List Char)
  | [] => ([], [])
  | label :: labels =>
    if isLabel label then
      let (kept, others) := splitLabels labels
      (label :: kept, others)
    else
      let start := (label.takeWhile isLabelChar).take 63
      ([start], label.drop start.length :: labels)

/-- Joins labels with points. -/
def joinLabels (labels : List (List Char)) : List Char :=
  List.intercalate ['.'] labels

/-- Splits an address that starts with its host, after the user name. -/
def readHost (scheme : List Char) (slashes : Bool) (user : List Char) (s : List Char) : Url :=
  let upto := s.takeWhile (!endsHost ·)
  let upto := if upto.getLast? == some ':' then upto.dropLast else upto
  let tail := s.drop upto.length
  let digits := (upto.reverse.takeWhile fun c => '0' ≤ c && c ≤ '9').reverse
  let before := upto.take (upto.length - digits.length)
  let (host, endpoint) :=
    if before.getLast? == some ':' then (before.dropLast, digits) else (upto, [])
  let bracketed := host.head? == some '[' && host.getLast? == some ']'
  if bracketed then
    { scheme, slashes, user, endpoint, tail,
      host := if 255 < host.length then [] else host.tail.dropLast }
  else
    let (kept, others) := splitLabels (fields (· == '.') host)
    let host := joinLabels kept
    { scheme, slashes, user, endpoint, tail := joinLabels others ++ tail,
      host := if 255 < host.length then [] else host }

/-- Splits an address into its parts, blanks at its ends left out. Only an address with two slashes,
or with a scheme that needs none, has a host. -/
def read (s : List Char) : Url :=
  let s := trim s
  let scheme := readScheme s
  let s := s.drop scheme.length
  let hostless := scheme == "javascript:".toList
  let slashes := ['/', '/'].isPrefixOf s
  let skipped := slashes && !hostless
  let s := if skipped then s.drop 2 else s
  let needsSlashes :=
    ["http:", "https:", "ftp:", "gopher:", "file:"].contains (String.ofList scheme)
  if !hostless && (slashes || (!scheme.isEmpty && !needsSlashes)) then
    let authority := s.takeWhile (!endsAuthority ·)
    let host := (authority.reverse.takeWhile (· != '@')).reverse
    let user := (authority.take (authority.length - host.length)).dropLast
    readHost scheme skipped user (s.drop (authority.length - host.length))
  else { scheme, slashes := skipped, user := [], host := [], endpoint := [], tail := s }

/-- Writes an address. -/
def render (u : Url) : List Char :=
  u.scheme ++ (if u.slashes then ['/', '/'] else []) ++
    (if u.user.isEmpty then [] else u.user ++ ['@']) ++
    (if u.host.contains ':' then '[' :: u.host ++ [']'] else u.host) ++
    (if u.endpoint.isEmpty then [] else ':' :: u.endpoint) ++ u.tail

/-- Whether the host of the address is a name that can be converted to and from ASCII. -/
def hasNamedHost (u : Url) : Bool :=
  !u.host.isEmpty && ["", "http:", "https:", "mailto:"].contains (String.ofList u.scheme)

/-- The labels of a host, at any of the points that separate labels. -/
def labels (host : List Char) : List (List Char) :=
  fields (fun c => [0x2E, 0x3002, 0xFF0E, 0xFF61].contains c.toNat) host

/-- The address with its host in ASCII. -/
def toAscii (u : Url) : Url :=
  if u.hasNamedHost then
    let encodeLabel (label : List Char) :=
      if label.any (fun c => 0x7E < c.toNat) then "xn--".toList ++ Punycode.encode label else label
    { u with host := joinLabels ((labels u.host).map encodeLabel) }
  else u

/-- The address with its host in readable characters. -/
def toReadable (u : Url) : Url :=
  if u.hasNamedHost then
    let decodeLabel (label : List Char) : Option (List Char) :=
      if "xn--".toList.isPrefixOf label then Punycode.decode? (lower (label.drop 4)) else some label
    match (labels u.host).mapM decodeLabel with
    | some decoded => { u with host := joinLabels decoded }
    | none => u
  else u

/-- The hexadecimal digit with the value `n`, below 16, in upper case. -/
def upperHex (n : Nat) : Char :=
  if n < 10 then Char.ofNat ('0'.toNat + n) else Char.ofNat ('A'.toNat + (n - 10))

/-- A byte as a percent sign and two hexadecimal digits. -/
def percent (b : Nat) : List Char :=
  ['%', upperHex (b / 16), upperHex (b % 16)]

/-- Whether an address shows `c` as it is. -/
def isPlain (c : Char) : Bool :=
  isAsciiAlphanumeric c || ";/?:@&=+$,-_.!~*'()#".toList.contains c

/-- The text with every character that is not plain replaced by the percent signs of its bytes.
Percent signs that already stand before two hexadecimal digits are kept. -/
def percentEncode : List Char → List Char
  | [] => []
  | '%' :: a :: b :: s =>
    if (hexDigit? a).isSome && (hexDigit? b).isSome then '%' :: a :: b :: percentEncode s
    else percent '%'.toNat ++ percentEncode (a :: b :: s)
  | c :: s =>
    (if isPlain c then [c] else (String.utf8EncodeChar c).flatMap fun b => percent b.toNat) ++
      percentEncode s

/-- The bytes that a run of percent signs stands for at the start of a text, and what follows. -/
def percentRun : List Char → List Nat × List Char
  | '%' :: a :: b :: s =>
    match hexDigit? a, hexDigit? b with
    | some x, some y =>
      let (bytes, rest) := percentRun s
      ((x * 16 + y) :: bytes, rest)
    | _, _ => ([], '%' :: a :: b :: s)
  | s => ([], s)

/-- Whether `b` continues a character of several bytes. -/
def isContinuation (b : Nat) : Bool :=
  0x80 ≤ b && b < 0xC0

/-- How many bytes continue a character that starts with the byte `b`, zero if none can. -/
def continuationCount (b : Nat) : Nat :=
  if 0xC0 ≤ b && b < 0xE0 then 1
  else if 0xE0 ≤ b && b < 0xF0 then 2
  else if 0xF0 ≤ b && b < 0xF8 then 3
  else 0

/-- The code point of a character with the given bytes. -/
def joinBytes (b : Nat) (tail : List Nat) : Nat :=
  tail.foldl (fun n t => n * 64 + (t - 0x80)) (b % Nat.pow 2 (6 - tail.length))

/-- Whether the code point `n` is a character that takes `tail` bytes after the first one. -/
def isEncodedBy (n tail : Nat) : Bool :=
  [0, 0x80, 0x800, 0x10000].getD tail 0 ≤ n && n < 0x110000 && !(0xD800 ≤ n && n < 0xE000)

/-- The character of a byte below 128, or the byte as a percent sign when the character has a
meaning in an address. -/
def decodeAscii (b : Nat) : List Char :=
  if ";/?:@&=+$,#%".toList.contains (Char.ofNat b) then percent b else [Char.ofNat b]

/-- What the first byte `b` of a run stands for, and how many of the bytes after it belong to it.
Bytes that have the form of a character and are none become replacement characters, one for each. -/
def decodeFirst (b : Nat) (rest : List Nat) : List Char × Nat :=
  let count := continuationCount b
  let tail := rest.take count
  if b < 0x80 then (decodeAscii b, 0)
  else if count != 0 && tail.length == count && tail.all isContinuation then
    let n := joinBytes b tail
    if isEncodedBy n count then ([Char.ofNat n], count)
    else (List.replicate (count + 1) (Char.ofNat 0xFFFD), count)
  else ([Char.ofNat 0xFFFD], 0)

/-- The characters of a run of bytes, in at most `fuel` steps. -/
def decodeBytes : (fuel : Nat) → List Nat → List Char
  | 0, _ => []
  | _, [] => []
  | fuel + 1, b :: rest =>
    let (chars, count) := decodeFirst b rest
    chars ++ decodeBytes fuel (rest.drop count)

/-- A text with its percent signs replaced by the characters they stand for, in at most `fuel`
steps. -/
def percentDecodeSteps : (fuel : Nat) → List Char → List Char
  | 0, s => s
  | _, [] => []
  | fuel + 1, c :: s =>
    match percentRun (c :: s) with
    | ([], _) => c :: percentDecodeSteps fuel s
    | (bytes, rest) => decodeBytes bytes.length bytes ++ percentDecodeSteps fuel rest

/-- A text with its percent signs replaced by the characters they stand for. -/
def percentDecode (s : List Char) : List Char :=
  percentDecodeSteps s.length s

/-- The address as the page uses it. -/
def normalize (s : List Char) : List Char :=
  percentEncode (read s).toAscii.render

/-- The address as the text of an automatic link shows it. -/
def display (s : List Char) : List Char :=
  percentDecode (read s).toReadable.render

/-- Whether links may lead to the address. Scripts, files and embedded data other than common images
are refused. -/
def isAllowed (s : List Char) : Bool :=
  let s := lower (trim s)
  let starts (p : String) := p.toList.isPrefixOf s
  !(["vbscript:", "javascript:", "file:", "data:"].any starts) ||
    ["data:image/gif;", "data:image/png;", "data:image/jpeg;", "data:image/webp;"].any starts

end Url

end ProseCheck.Markdown
