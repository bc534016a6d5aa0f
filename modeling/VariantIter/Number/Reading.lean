import VariantIter.Number.Double
import VariantIter.Text.Blank
import VariantIter.Text.Digits

/-!
Numbers read from a text.

White space around a number and a sign before it are allowed, and the digits of all scripts count. A
number in base ten has 4300 digits at most.
-/

namespace VariantIter.Number

/-- The longest integer in base ten that is read or written. -/
def maxDigits : Nat := 4300

/-- White space that may stand around a number. -/
def isMargin (c : CodePoint) : Bool :=
  if c.code < 0x80 then c.code == 0x20 || (decide (0x9 ≤ c.code) && decide (c.code ≤ 0xD))
  else Text.isBlank c

/-- A code point of a number; beyond ASCII only digits have a meaning. -/
def plainChar (c : CodePoint) : Char :=
  match c, Text.decimalValue? c with
  | _, some digit => Text.digitChar digit
  | .char c, none => if c.toNat < 0x80 then c else '?'
  | .surrogate _, none => '?'

/-- The characters of a number without the white space around it. -/
def core (s : Text) : List Char :=
  (Text.dropRight isMargin (s.dropWhile isMargin)).map plainChar

/-- A sign, if there is one: whether it is a minus sign, and what follows. -/
def splitSign : List Char → Bool × List Char
  | '-' :: cs => (true, cs)
  | '+' :: cs => (false, cs)
  | cs => (false, cs)

/-! ## Integers -/

/-- Why a text is no integer. -/
inductive IntegerFault where
  | tooManyDigits (count : Nat)
  | invalid (base : Nat) (text : Text)
deriving DecidableEq, Repr

/-- The letter that a zero and the base of a number are marked with. -/
def baseMark? (base : Nat) : Option Char :=
  if base = 2 then some 'b' else if base = 8 then some 'o' else if base = 16 then some 'x' else none

/-- Drops the mark of a base, if it is there. -/
def dropMark (base : Nat) (cs : List Char) : List Char :=
  match cs, baseMark? base with
  | '0' :: c :: rest, some mark => if c.toLower == mark then rest else cs
  | _, _ => cs

def isDigitIn (base : Nat) (c : Char) : Bool :=
  match Text.digitValue? c with
  | some digit => decide (digit < base)
  | none => false

/-- The integer in a base that a text spells. The number of digits is looked at before what follows
them. -/
def readInteger (base : Nat) (s : Text) : Except IntegerFault Int :=
  let (negative, cs) := splitSign (core s)
  let cs := dropMark base cs
  let digits := cs.takeWhile (isDigitIn base)
  if base = 10 ∧ maxDigits < digits.length then .error (.tooManyDigits digits.length)
  else if digits.isEmpty || digits.length != cs.length then .error (.invalid base s)
  else
    let n := Text.readDigits base digits
    .ok (if negative then -(n : Int) else n)

/-! ## Floating-point numbers -/

/-- An exponent up to the end; nothing is the exponent zero. -/
def exponent? : List Char → Option Int
  | [] => some 0
  | e :: cs =>
      if e.toLower == 'e' then
        let (negative, digits) := splitSign cs
        if digits.isEmpty || !digits.all Text.isDigit then none
        else
          let n := Text.readDigits 10 digits
          some (if negative then -(n : Int) else n)
      else none

/-- Digits with at most one point among them, then perhaps an exponent. -/
def readDecimal (negative : Bool) (cs : List Char) : Option Double :=
  let (whole, rest) := cs.span Text.isDigit
  let (fraction, rest) := match rest with
    | '.' :: rest => rest.span Text.isDigit
    | rest => ([], rest)
  let digits := whole ++ fraction
  if digits.isEmpty then none
  else (exponent? rest).map fun exponent =>
    .ofDecimal negative (Text.readDigits 10 digits) digits.length (exponent - fraction.length)

/-- The floating-point number that a text spells. -/
def readDouble (s : Text) : Option Double :=
  let (negative, cs) := splitSign (core s)
  let word := String.ofList (cs.map Char.toLower)
  if word == "inf" || word == "infinity" then some (.infinite negative)
  else if word == "nan" then some .nan
  else readDecimal negative cs

end VariantIter.Number
