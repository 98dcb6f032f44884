/-!
# UTF-8

The decoder accepts exactly the byte sequences that are the encoding of a text: no overlong forms,
no surrogates, nothing above the last code point. A fault tells which bytes are wrong and why.
-/

namespace ProseCheck.Text.Utf8

/-- Why bytes are no part of an encoding. -/
inductive Reason where
  | invalidStart
  | invalidContinuation
  | endOfData
  deriving DecidableEq, Repr

/-- The wording of a reason. -/
def Reason.message : Reason → String
  | invalidStart => "invalid start byte"
  | invalidContinuation => "invalid continuation byte"
  | endOfData => "unexpected end of data"

/-- The bytes from position `start` on, `count` of them, are no part of an encoding; `byte` is the
first of them. -/
structure Fault where
  start : Nat
  count : Nat
  byte : UInt8
  reason : Reason
  deriving DecidableEq, Repr

/-- The least and the greatest byte that may follow the first byte of a character of several
bytes. -/
def secondRange (b : UInt8) : UInt8 × UInt8 :=
  if b == 0xE0 then (0xA0, 0xBF)
  else if b == 0xED then (0x80, 0x9F)
  else if b == 0xF0 then (0x90, 0xBF)
  else if b == 0xF4 then (0x80, 0x8F)
  else (0x80, 0xBF)

/-- Whether `c` may be the second byte of a character that starts with `b`. -/
def isSecond (b c : UInt8) : Bool :=
  (secondRange b).1 ≤ c && c ≤ (secondRange b).2

/-- Whether `c` may be a later byte of a character. -/
def isTail (c : UInt8) : Bool :=
  0x80 ≤ c && c ≤ 0xBF

/-- The payload of a continuation byte. -/
def payload (c : UInt8) : Nat :=
  c.toNat - 0x80

/-- Decodes bytes that start at a position of the input. -/
def decodeFrom : (position : Nat) → List UInt8 → Except Fault (List Char)
  | _, [] => .ok []
  | position, b :: s =>
    let fault (count : Nat) (reason : Reason) : Except Fault (List Char) :=
      .error { start := position, count, byte := b, reason }
    if b < 0x80 then
      (decodeFrom (position + 1) s).map (Char.ofNat b.toNat :: ·)
    else if b < 0xC2 then fault 1 .invalidStart
    else if b < 0xE0 then
      match s with
      | [] => fault 1 .endOfData
      | c1 :: s1 =>
        if !isSecond b c1 then fault 1 .invalidContinuation
        else
          (decodeFrom (position + 2) s1).map
            (Char.ofNat ((b.toNat - 0xC0) * 64 + payload c1) :: ·)
    else if b < 0xF0 then
      match s with
      | [] => fault 1 .endOfData
      | c1 :: s1 =>
        if !isSecond b c1 then fault 1 .invalidContinuation
        else
          match s1 with
          | [] => fault 2 .endOfData
          | c2 :: s2 =>
            if !isTail c2 then fault 2 .invalidContinuation
            else
              (decodeFrom (position + 3) s2).map
                (Char.ofNat (((b.toNat - 0xE0) * 64 + payload c1) * 64 + payload c2) :: ·)
    else if b < 0xF5 then
      match s with
      | [] => fault 1 .endOfData
      | c1 :: s1 =>
        if !isSecond b c1 then fault 1 .invalidContinuation
        else
          match s1 with
          | [] => fault 2 .endOfData
          | c2 :: s2 =>
            if !isTail c2 then fault 2 .invalidContinuation
            else
              match s2 with
              | [] => fault 3 .endOfData
              | c3 :: s3 =>
                if !isTail c3 then fault 3 .invalidContinuation
                else
                  (decodeFrom (position + 4) s3).map
                    (Char.ofNat ((((b.toNat - 0xF0) * 64 + payload c1) * 64 + payload c2) * 64 +
                      payload c3) :: ·)
    else fault 1 .invalidStart

/-- Decodes a sequence of bytes. -/
def decode (bytes : List UInt8) : Except Fault (List Char) :=
  decodeFrom 0 bytes

/-- Encodes a text. -/
def encode (s : List Char) : List UInt8 :=
  s.flatMap String.utf8EncodeChar

/-- A byte in hexadecimal digits. -/
def hexByte (b : UInt8) : String :=
  String.ofList (['0', 'x'] ++ List.replicate (2 - (Nat.toDigits 16 b.toNat).length) '0' ++
    Nat.toDigits 16 b.toNat)

/-- The wording of a fault in the encoding called `codec`, with the given wording of its reason. -/
def faultMessage (codec : String) (start count : Nat) (byte : UInt8) (reason : String) : String :=
  let place :=
    if count == 1 then "byte " ++ hexByte byte ++ " in position " ++ toString start
    else "bytes in position " ++ toString start ++ "-" ++ toString (start + count - 1)
  "'" ++ codec ++ "' codec can't decode " ++ place ++ ": " ++ reason

/-- The wording of a fault. -/
def Fault.message (f : Fault) : String :=
  faultMessage "utf-8" f.start f.count f.byte f.reason.message

end ProseCheck.Text.Utf8
