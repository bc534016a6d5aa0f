import VariantIter.Text.Basic

/-!
Bytes as text in base sixty-four.

Four characters stand for three bytes. Decoding passes over characters that have no value, and ends at
the padding of an incomplete group; a group that is incomplete at the end is refused.
-/

namespace VariantIter.Text.Base64

/-- The value of a character, below sixty-four. -/
def value? (c : Char) : Option Nat :=
  if 'A' ≤ c ∧ c ≤ 'Z' then some (c.toNat - 'A'.toNat)
  else if 'a' ≤ c ∧ c ≤ 'z' then some (c.toNat - 'a'.toNat + 26)
  else if '0' ≤ c ∧ c ≤ '9' then some (c.toNat - '0'.toNat + 52)
  else if c = '+' then some 62
  else if c = '/' then some 63
  else none

/-- The character of a value below sixty-four. -/
def charOf (n : Nat) : Char :=
  if n < 26 then Char.ofNat ('A'.toNat + n)
  else if n < 52 then Char.ofNat ('a'.toNat + (n - 26))
  else if n < 62 then Char.ofNat ('0'.toNat + (n - 52))
  else if n = 62 then '+'
  else '/'

/-- What was read of a group of four: nothing, or a number of characters and the bits that are left
over from them. -/
inductive Group where
  | start
  | one (bits : Nat)
  | two (bits : Nat)
  | three (bits : Nat)
deriving DecidableEq, Repr

/-- Takes the value of a character into a group: the byte that is complete, and the group. -/
def Group.take (group : Group) (n : Nat) : Option UInt8 × Group :=
  match group with
  | .start => (none, .one n)
  | .one bits => (some (UInt8.ofNat (bits * 4 + n / 16)), .two (n % 16))
  | .two bits => (some (UInt8.ofNat (bits * 16 + n / 4)), .three (n % 4))
  | .three bits => (some (UInt8.ofNat (bits * 64 + n)), .start)

/-- A padding character, after `pads` others, completes a group of two or three characters. -/
def Group.isPadded (group : Group) (pads : Nat) : Bool :=
  match group with
  | .start => false
  | .one _ => false
  | .two _ => decide (1 ≤ pads)
  | .three _ => true

/-- Decodes characters after a group, `pads` being the padding in it; `none` if the last group is
incomplete. -/
def decodeFrom (group : Group) (pads : Nat) : List Char → Option (List UInt8)
  | [] => if group = .start then some [] else none
  | c :: rest =>
      if c = '=' then
        if group.isPadded pads then some []
        else match group with
          | .two bits => decodeFrom (.two bits) (pads + 1) rest
          | group => decodeFrom group pads rest
      else match value? c with
        | none => decodeFrom group pads rest
        | some n => match group.take n with
          | (some b, group) => (decodeFrom group 0 rest).map (b :: ·)
          | (none, group) => decodeFrom group 0 rest

def decode (cs : List Char) : Option (List UInt8) :=
  decodeFrom .start 0 cs

/-- Bytes in groups of four characters, the last of them padded. -/
def encode : List UInt8 → List Char
  | [] => []
  | [a] =>
      let n := a.toNat * 16
      [charOf (n / 64), charOf (n % 64), '=', '=']
  | [a, b] =>
      let n := (a.toNat * 256 + b.toNat) * 4
      [charOf (n / 4096), charOf (n / 64 % 64), charOf (n % 64), '=']
  | a :: b :: c :: rest =>
      let n := (a.toNat * 256 + b.toNat) * 256 + c.toNat
      charOf (n / 262144) :: charOf (n / 4096 % 64) :: charOf (n / 64 % 64) :: charOf (n % 64) ::
        encode rest

/-- A text in lines of a length, the last of which may be shorter. -/
def linesOf (length : Nat) : (fuel : Nat) → List Char → List (List Char)
  | 0, _ => []
  | _, [] => []
  | fuel + 1, cs => cs.take length :: linesOf length fuel (cs.drop length)

/-- Bytes in lines of 76 characters. -/
def encodeLines (bs : List UInt8) : List (List Char) :=
  let cs := encode bs
  linesOf 76 (cs.length + 1) cs

end VariantIter.Text.Base64
