import ProseCheck.Text.Point
import ProseCheck.Text.Utf8

/-!
# Encodings of a file

A file can be in UTF-8, UTF-16 or UTF-32, with either order of bytes and with or without a byte
order mark. Without a mark, the zeros among the first bytes tell the encoding of a text that starts
with an ASCII character. A surrogate may stand alone in each of the encodings.
-/

namespace ProseCheck.Text

/-- The order of the bytes of a unit. -/
inductive ByteOrder where
  | little
  | big
  deriving DecidableEq, Repr

/-- The encodings of files. -/
inductive Encoding where
  | utf8
  | utf16 (order : ByteOrder)
  | utf32 (order : ByteOrder)
  deriving DecidableEq, Repr

/-- Why a file cannot be decoded. -/
inductive EncodingFault where
  /-- The bytes are no UTF-8. -/
  | utf8 (fault : Utf8.Fault)
  /-- The bytes from `start` on, `count` of them and `byte` first, are no text in an encoding by
  units of several bytes. -/
  | units (encoding : Encoding) (start count : Nat) (byte : UInt8) (reason : String)
  deriving DecidableEq, Repr

/-- The number that bytes in the given order write. -/
def unitValue (order : ByteOrder) (bytes : List UInt8) : Nat :=
  let ordered := match order with
    | .little => bytes.reverse
    | .big => bytes
  ordered.foldl (fun n b => n * 256 + b.toNat) 0

/-- Whether a unit is the first half of a pair. -/
def isHighSurrogate (u : Nat) : Bool :=
  0xD800 ≤ u && u < 0xDC00

/-- Whether a unit is the second half of a pair. -/
def isLowSurrogate (u : Nat) : Bool :=
  0xDC00 ≤ u && u < 0xE000

/-- The code point of a pair. -/
def pairPoint (high low : Nat) : Point :=
  .scalar (Char.ofNat (0x10000 + (high - 0xD800) * 0x400 + (low - 0xDC00)))

/-- The surrogate that three bytes write in the manner of UTF-8. -/
def passedSurrogate? : List UInt8 → Option (Point × List UInt8)
  | a :: b :: c :: s =>
    if a == 0xED && 0xA0 ≤ b && b ≤ 0xBF && Utf8.isTail c then
      some (.ofNat (0xD000 + Utf8.payload b * 64 + Utf8.payload c), s)
    else none
  | _ => none

/-- Decodes UTF-8 that starts at a position of the input and may have surrogates, in at most `fuel`
runs of UTF-8 proper. Where such a run ends with a fault, a surrogate has to stand. -/
def decodeUtf8 : (fuel : Nat) → (position : Nat) → List UInt8 → Except Utf8.Fault Str
  | fuel, position, bytes =>
    match Utf8.decodeFrom position bytes with
    | .ok chars => .ok (.ofChars chars)
    | .error fault =>
      let count := fault.start - position
      match fuel, Utf8.decodeFrom position (bytes.take count),
        passedSurrogate? (bytes.drop count) with
      | fuel + 1, .ok chars, some (surrogate, rest) =>
        (decodeUtf8 fuel (fault.start + 3) rest).map (.ofChars chars ++ surrogate :: ·)
      | _, _, _ => .error fault

/-- Decodes units of two bytes that start at a position of the input. A surrogate that is not part
of a pair stands for itself. -/
def decodeUtf16 (order : ByteOrder) : (position : Nat) → List UInt8 → Except EncodingFault Str
  | _, [] => .ok []
  | position, [b] => .error (.units (.utf16 order) position 1 b "truncated data")
  | position, a :: b :: s =>
    let u := unitValue order [a, b]
    match s with
    | c :: d :: t =>
      let v := unitValue order [c, d]
      if isHighSurrogate u && isLowSurrogate v then
        (decodeUtf16 order (position + 4) t).map (pairPoint u v :: ·)
      else (decodeUtf16 order (position + 2) (c :: d :: t)).map (.ofNat u :: ·)
    | t => (decodeUtf16 order (position + 2) t).map (.ofNat u :: ·)

/-- Decodes units of four bytes that start at a position of the input. -/
def decodeUtf32 (order : ByteOrder) : (position : Nat) → List UInt8 → Except EncodingFault Str
  | _, [] => .ok []
  | position, a :: b :: c :: d :: s =>
    let u := unitValue order [a, b, c, d]
    if 0x110000 ≤ u then
      .error (.units (.utf32 order) position 4 a "code point not in range(0x110000)")
    else (decodeUtf32 order (position + 4) s).map (.ofNat u :: ·)
  | position, a :: s =>
    .error (.units (.utf32 order) position (s.length + 1) a "truncated data")

/-- The encoding that the first bytes of a file show, and how many bytes its byte order mark
takes. -/
def detectEncoding (bytes : List UInt8) : Encoding × Nat :=
  if [0x00, 0x00, 0xFE, 0xFF].isPrefixOf bytes then (.utf32 .big, 4)
  else if [0xFF, 0xFE, 0x00, 0x00].isPrefixOf bytes then (.utf32 .little, 4)
  else if [0xFE, 0xFF].isPrefixOf bytes then (.utf16 .big, 2)
  else if [0xFF, 0xFE].isPrefixOf bytes then (.utf16 .little, 2)
  else if [0xEF, 0xBB, 0xBF].isPrefixOf bytes then (.utf8, 3)
  else
    match bytes with
    | b0 :: b1 :: b2 :: b3 :: _ =>
      if b0 == 0 then if b1 == 0 then (.utf32 .big, 0) else (.utf16 .big, 0)
      else if b1 == 0 then
        if b2 == 0 && b3 == 0 then (.utf32 .little, 0) else (.utf16 .little, 0)
      else (.utf8, 0)
    | [b0, b1] =>
      if b0 == 0 then (.utf16 .big, 0) else if b1 == 0 then (.utf16 .little, 0) else (.utf8, 0)
    | _ => (.utf8, 0)

/-- Decodes bytes in a known encoding that start at a position of the input. -/
def Encoding.decodeFrom (position : Nat) (bytes : List UInt8) : Encoding → Except EncodingFault Str
  | .utf8 => (decodeUtf8 bytes.length position bytes).mapError .utf8
  | .utf16 order => decodeUtf16 order position bytes
  | .utf32 order => decodeUtf32 order position bytes

/-- Decodes a file in the encoding that it shows. Positions in a fault count the byte order mark,
except in UTF-8. -/
def decodeDetected (bytes : List UInt8) : Except EncodingFault Str :=
  let (encoding, mark) := detectEncoding bytes
  let position := if encoding = .utf8 then 0 else mark
  encoding.decodeFrom position (bytes.drop mark)

/-- The name of an encoding in messages. -/
def Encoding.name : Encoding → String
  | .utf8 => "utf-8"
  | .utf16 .little => "utf-16-le"
  | .utf16 .big => "utf-16-be"
  | .utf32 .little => "utf-32-le"
  | .utf32 .big => "utf-32-be"

/-- The wording of a fault. -/
def EncodingFault.message : EncodingFault → String
  | .utf8 fault => fault.message
  | .units encoding start count byte reason =>
    Utf8.faultMessage encoding.name start count byte reason

end ProseCheck.Text
