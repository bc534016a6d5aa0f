import VariantIter.Text.Literal

/-!
Text as bytes in UTF-8.

A fault of decoding covers the longest beginning of a sequence that could still have become a
character: its first byte, its position and its width are reported. Encoding fails at halves of
surrogate pairs, and the fault covers all of them that stand next to each other. In the name of a file
some of the halves stand for single bytes.
-/

namespace VariantIter.Text.Utf8

inductive Reason where
  | invalidStart
  | invalidContinuation
  | unexpectedEnd
deriving DecidableEq, Repr

def Reason.message : Reason → Text
  | .invalidStart => "invalid start byte"
  | .invalidContinuation => "invalid continuation byte"
  | .unexpectedEnd => "unexpected end of data"

/-- The bytes at fault start with `byte` at `position` and are `width` in number. -/
structure Fault where
  byte : Nat
  position : Nat
  width : Nat
  reason : Reason
deriving DecidableEq, Repr

def Fault.message (fault : Fault) : Text :=
  let place : Text :=
    if fault.width ≤ 1 then
      "byte 0x" ++ ofChars (hex 2 fault.byte) ++ " in position " ++ ofNat fault.position
    else
      "bytes in position " ++ ofNat fault.position ++ "-" ++
        ofNat (fault.position + fault.width - 1)
  "'utf-8' codec can't decode " ++ place ++ ": " ++ fault.reason.message

/-- How a lead byte continues: the number of bytes that follow, its own bits, and the bounds of the
byte after it. -/
structure Lead where
  tail : Nat
  bits : Nat
  low : Nat
  high : Nat
deriving DecidableEq, Repr

/-- Overlong forms, surrogates and code points above U+10FFFF are excluded by the bounds. -/
def lead? (b : Nat) : Option Lead :=
  if 0xC2 ≤ b ∧ b ≤ 0xDF then some ⟨1, b - 0xC0, 0x80, 0xBF⟩
  else if b = 0xE0 then some ⟨2, 0, 0xA0, 0xBF⟩
  else if b = 0xED then some ⟨2, 0xD, 0x80, 0x9F⟩
  else if 0xE1 ≤ b ∧ b ≤ 0xEF then some ⟨2, b - 0xE0, 0x80, 0xBF⟩
  else if b = 0xF0 then some ⟨3, 0, 0x90, 0xBF⟩
  else if 0xF1 ≤ b ∧ b ≤ 0xF3 then some ⟨3, b - 0xF0, 0x80, 0xBF⟩
  else if b = 0xF4 then some ⟨3, 4, 0x80, 0x8F⟩
  else none

def isTail (b : Nat) : Bool :=
  decide (0x80 ≤ b) && decide (b ≤ 0xBF)

/-- Decodes bytes of which the first stands at `position`. -/
def decodeFrom (position : Nat) : List UInt8 → Except Fault (List Char)
  | [] => .ok []
  | b :: rest =>
      let byte := b.toNat
      let fail (width : Nat) (reason : Reason) : Except Fault (List Char) :=
        .error ⟨byte, position, width, reason⟩
      if byte < 0x80 then
        (decodeFrom (position + 1) rest).map (Char.ofNat byte :: ·)
      else match lead? byte with
        | none => fail 1 .invalidStart
        | some lead => match rest with
          | [] => fail 1 .unexpectedEnd
          | b1 :: rest1 =>
              let code := lead.bits * 64 + (b1.toNat - 0x80)
              if b1.toNat < lead.low ∨ lead.high < b1.toNat then fail 1 .invalidContinuation
              else if lead.tail = 1 then
                (decodeFrom (position + 2) rest1).map (Char.ofNat code :: ·)
              else match rest1 with
                | [] => fail 2 .unexpectedEnd
                | b2 :: rest2 =>
                    let code := code * 64 + (b2.toNat - 0x80)
                    if !isTail b2.toNat then fail 2 .invalidContinuation
                    else if lead.tail = 2 then
                      (decodeFrom (position + 3) rest2).map (Char.ofNat code :: ·)
                    else match rest2 with
                      | [] => fail 3 .unexpectedEnd
                      | b3 :: rest3 =>
                          let code := code * 64 + (b3.toNat - 0x80)
                          if !isTail b3.toNat then fail 3 .invalidContinuation
                          else (decodeFrom (position + 4) rest3).map (Char.ofNat code :: ·)

def decode (bytes : List UInt8) : Except Fault String :=
  (decodeFrom 0 bytes).map String.ofList

/-- The bytes of a sequence of characters. -/
def encode (s : String) : List UInt8 :=
  s.toUTF8.toList

/-! ## Encoding -/

/-- Surrogates next to each other, the first having the number `code`. -/
structure Unencodable where
  code : Nat
  position : Nat
  width : Nat
deriving DecidableEq, Repr

def Unencodable.message (gap : Unencodable) : Text :=
  let place : Text :=
    if gap.width ≤ 1 then
      "character '" ++ codeEscape gap.code ++ "' in position " ++ ofNat gap.position
    else
      "characters in position " ++ ofNat gap.position ++ "-" ++ ofNat (gap.position + gap.width - 1)
  "'utf-8' codec can't encode " ++ place ++ ": surrogates not allowed"

/-- The surrogates at the start of a text, which stands at a position. -/
def Unencodable.at (position : Nat) (c : CodePoint) (rest : Text) : Unencodable :=
  ⟨c.code, position, 1 + (rest.takeWhile CodePoint.isSurrogate).length⟩

/-- The characters of a text that holds nothing else and stands at a position. -/
def charsFrom (position : Nat) : Text → Except Unencodable (List Char)
  | [] => .ok []
  | .char c :: rest => (charsFrom (position + 1) rest).map (c :: ·)
  | .surrogate half :: rest => .error (.at position (.surrogate half) rest)

/-- The characters of a text, as a file can hold them. -/
def toFile (s : Text) : Except Unencodable String :=
  (charsFrom 0 s).map String.ofList

/-- The surrogates that stand for bytes in the name of a file. -/
def isByteMark (c : CodePoint) : Bool :=
  decide (0xDC80 ≤ c.code) && decide (c.code ≤ 0xDCFF)

/-- The first surrogates in the name of a file that stand for nothing. -/
def nameGap? (position : Nat) : Text → Option Unencodable
  | [] => none
  | c :: rest =>
      if c.isSurrogate && !isByteMark c then some (.at position c rest)
      else nameGap? (position + 1) rest

/-- The number of bytes that a code point takes in the name of a file. -/
def nameWidth (c : CodePoint) : Nat :=
  if c.code < 0x80 then 1
  else if c.isSurrogate then 1
  else if c.code < 0x800 then 2
  else if c.code < 0x10000 then 3
  else 4

/-- The number of bytes of the name of a file. -/
def nameSize (name : Text) : Nat :=
  (name.map nameWidth).foldr (· + ·) 0

/-- The bytes of the name of a file. -/
def nameBytes (name : Text) : List UInt8 :=
  name.flatMap fun
    | .char c => encode (String.singleton c)
    | .surrogate half => [UInt8.ofNat half.val]

/-- The surrogate that stands for a byte in the name of a file. -/
def byteMark (b : UInt8) : CodePoint :=
  (CodePoint.ofCode? (0xDC00 + b.toNat)).getD (.char (Char.ofNat b.toNat))

/-- The character that bytes start with, and the number of bytes after its first. -/
def firstChar? (bytes : List UInt8) : Option (Char × Nat) :=
  [0, 1, 2, 3].findSome? fun tail => match decodeFrom 0 (bytes.take (tail + 1)) with
    | .ok [c] => some (c, tail)
    | _ => none

/-- The name of a file that is given as bytes. Bytes that belong to no character are marked; `skip` bytes belong
to a character that was read already. -/
def nameFrom : (skip : Nat) → List UInt8 → Text
  | _, [] => []
  | skip + 1, _ :: bytes => nameFrom skip bytes
  | 0, b :: bytes => match firstChar? (b :: bytes) with
    | some (c, tail) => .char c :: nameFrom tail bytes
    | none => byteMark b :: nameFrom 0 bytes

def nameOfBytes (bytes : List UInt8) : Text :=
  nameFrom 0 bytes

end VariantIter.Text.Utf8
