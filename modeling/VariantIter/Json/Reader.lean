import VariantIter.Number.Reading
import VariantIter.Value.Basic

/-!
Reading JSON.

Numbers without a fraction or an exponent are integers of any size up to 4300 digits; `NaN` and
`Infinity` are accepted. An escape may stand for half of a surrogate pair; two halves that follow each
other are one character. Of a repeated key the first place and the last value are kept. A fault names
the problem and where it is, counted in characters from 0 and in lines and columns from 1.
-/

namespace VariantIter.Json

inductive Problem where
  | expectingValue
  | expectingName
  | expectingColon
  | expectingComma
  | unterminatedString
  | controlCharacter
  | invalidEscape
  | invalidUnicodeEscape
  | extraData
  | byteOrderMark
deriving DecidableEq, Repr

def Problem.message : Problem → Text
  | .expectingValue => "Expecting value"
  | .expectingName => "Expecting property name enclosed in double quotes"
  | .expectingColon => "Expecting ':' delimiter"
  | .expectingComma => "Expecting ',' delimiter"
  | .unterminatedString => "Unterminated string starting at"
  | .controlCharacter => "Invalid control character at"
  | .invalidEscape => "Invalid \\escape"
  | .invalidUnicodeEscape => "Invalid \\uXXXX escape"
  | .extraData => "Extra data"
  | .byteOrderMark => "Unexpected UTF-8 BOM (decode using utf-8-sig)"

/-- The two kinds of collections. -/
inductive Nest where
  | list
  | mapping
deriving DecidableEq, Repr

/-- Why reading stopped: a problem with so many characters left, an integer that is too long, or a
collection inside of too many others. -/
inductive Stop where
  | problem (problem : Problem) (left : Nat)
  | tooManyDigits (count : Nat)
  | tooDeep (nest : Nest)
deriving DecidableEq, Repr

/-- Stops at the first of the given characters. -/
def stopAt {α : Type} (problem : Problem) (rest : List Char) : Except Stop α :=
  .error (.problem problem rest.length)

def isSpace (c : Char) : Bool :=
  c == ' ' || c == '\t' || c == '\n' || c == '\r'

def skipSpace (cs : List Char) : List Char :=
  cs.dropWhile isSpace

/-- The number that four hexadecimal digits stand for. -/
def unit? (a b c d : Char) : Option Nat := do
  let a ← Text.digitValue? a
  let b ← Text.digitValue? b
  let c ← Text.digitValue? c
  let d ← Text.digitValue? d
  return ((a * 16 + b) * 16 + c) * 16 + d

/-- The code point of one unit. -/
def unitPoint (u : Nat) : CodePoint :=
  (CodePoint.ofCode? u).getD (.char '\x00')

/-- The character that a high and a low half make up. -/
def pairPoint (high low : Nat) : CodePoint :=
  unitPoint (0x10000 + (high - 0xD800) * 0x400 + (low - 0xDC00))

/-- The character that a backslash and `c` stand for. -/
def escape? (c : Char) : Option Char :=
  if c = '\x22' ∨ c = '\\' ∨ c = '/' then some c
  else if c = 'b' then some '\x08'
  else if c = 'f' then some '\x0c'
  else if c = 'n' then some '\n'
  else if c = 'r' then some '\r'
  else if c = 't' then some '\t'
  else none

/-- Puts a unit in front of those that were read. -/
def prepend (u : Nat) (read : Except Stop (List Nat × List Char)) :
    Except Stop (List Nat × List Char) :=
  read.map fun (units, rest) => (u :: units, rest)

/-- The units up to the closing quote, the opening one having `opening` characters left. Four digits of
a unit have to be followed by another character. -/
def readUnits (opening : Nat) : List Char → Except Stop (List Nat × List Char)
  | [] => .error (.problem .unterminatedString opening)
  | ['\\'] => .error (.problem .unterminatedString opening)
  | '\\' :: 'u' :: a :: b :: c :: d :: rest =>
      match unit? a b c d, rest with
      | some u, _ :: _ => prepend u (readUnits opening rest)
      | _, _ => stopAt .invalidUnicodeEscape ('u' :: a :: b :: c :: d :: rest)
  | '\\' :: c :: rest =>
      if c = 'u' then stopAt .invalidUnicodeEscape (c :: rest)
      else match escape? c with
        | some c' => prepend c'.toNat (readUnits opening rest)
        | none => stopAt .invalidEscape ('\\' :: c :: rest)
  | c :: rest =>
      if c = '\x22' then .ok ([], rest)
      else if c.toNat < 0x20 then stopAt .controlCharacter (c :: rest)
      else prepend c.toNat (readUnits opening rest)

/-- The text of a sequence of units, a high and a low half next to each other being one. -/
def joinUnits : List Nat → Text
  | [] => []
  | u :: v :: rest =>
      if 0xD800 ≤ u ∧ u ≤ 0xDBFF ∧ 0xDC00 ≤ v ∧ v ≤ 0xDFFF then pairPoint u v :: joinUnits rest
      else unitPoint u :: joinUnits (v :: rest)
  | [u] => [unitPoint u]

/-- The text up to the closing quote. -/
def readString (opening : Nat) (cs : List Char) : Except Stop (Text × List Char) :=
  (readUnits opening cs).map fun (units, rest) => (joinUnits units, rest)

/-- A fraction at the start of `cs`: its digits, if a point and a digit are there. -/
def splitFraction : List Char → List Char × List Char
  | '.' :: cs =>
      match cs.span Text.isDigit with
      | ([], _) => ([], '.' :: cs)
      | (digits, rest) => (digits, rest)
  | cs => ([], cs)

/-- An exponent at the start of `cs`, if there is a digit in it. -/
def splitExponent (cs : List Char) : Option Int × List Char :=
  match cs with
  | [] => (none, cs)
  | e :: more =>
      if e == 'e' || e == 'E' then
        let (negative, digits) : Bool × List Char := match more with
          | '-' :: digits => (true, digits)
          | '+' :: digits => (false, digits)
          | digits => (false, digits)
        match digits.span Text.isDigit with
        | ([], _) => (none, cs)
        | (digits, rest) =>
            let size := Text.readDigits 10 digits
            (some (if negative then -(size : Int) else size), rest)
      else (none, cs)

/-- The rest of a number after its sign and its integer digits. -/
def finishNumber (negative : Bool) (digits rest : List Char) : Except Stop (Value × List Char) :=
  let (fraction, rest) := splitFraction rest
  let (exponent, rest) := splitExponent rest
  if fraction.isEmpty && exponent.isNone then
    if Number.maxDigits < digits.length then .error (.tooManyDigits digits.length)
    else
      let n := Text.readDigits 10 digits
      .ok (.int (if negative then -(n : Int) else n), rest)
  else
    let all := digits ++ fraction
    .ok (.double (.ofDecimal negative (Text.readDigits 10 all) all.length
      (exponent.getD 0 - fraction.length)), rest)

/-- A number; without digits, the place of its sign is that of a missing value. -/
def readNumber (start : List Char) (negative : Bool) : List Char → Except Stop (Value × List Char)
  | '0' :: rest => finishNumber negative ['0'] rest
  | cs =>
      match cs.span Text.isDigit with
      | ([], _) => stopAt .expectingValue start
      | (digits, rest) => finishNumber negative digits rest

/-- A value that is neither a text nor a collection. -/
def readAtom (cs : List Char) : Except Stop (Value × List Char) :=
  match cs with
  | 'n' :: 'u' :: 'l' :: 'l' :: rest => .ok (.null, rest)
  | 't' :: 'r' :: 'u' :: 'e' :: rest => .ok (.bool true, rest)
  | 'f' :: 'a' :: 'l' :: 's' :: 'e' :: rest => .ok (.bool false, rest)
  | 'N' :: 'a' :: 'N' :: rest => .ok (.double .nan, rest)
  | 'I' :: 'n' :: 'f' :: 'i' :: 'n' :: 'i' :: 't' :: 'y' :: rest =>
      .ok (.double (.infinite false), rest)
  | '-' :: 'I' :: 'n' :: 'f' :: 'i' :: 'n' :: 'i' :: 't' :: 'y' :: rest =>
      .ok (.double (.infinite true), rest)
  | '-' :: rest => readNumber cs true rest
  | _ => readNumber cs false cs

/-- The number of collections that may stand inside of each other. -/
def maxDepth : Nat := 990

mutual

/-- A value at the start of the characters, inside of `depth` collections. Of any two steps that follow
each other one has read a character, so fuel above twice their number never runs out. -/
def readValue (depth : Nat) : (fuel : Nat) → List Char → Except Stop (Value × List Char)
  | 0, cs => stopAt .expectingValue cs
  | fuel + 1, cs =>
      match cs with
      | '\x22' :: rest =>
          (readString cs.length rest).map fun (s, rest) => (.text s, rest)
      | '[' :: rest =>
          if maxDepth ≤ depth then .error (.tooDeep .list)
          else match skipSpace rest with
            | ']' :: rest => .ok (.list [], rest)
            | rest => (readItems (depth + 1) fuel rest).map fun (items, rest) => (.list items, rest)
      | '\x7b' :: rest =>
          if maxDepth ≤ depth then .error (.tooDeep .mapping)
          else match skipSpace rest with
            | '\x7d' :: rest => .ok (.map [], rest)
            | rest =>
                (readMembers (depth + 1) fuel rest).map fun (members, rest) =>
                  (.map (Entries.ofPairs members), rest)
      | _ => readAtom cs

/-- The items of a list up to its closing bracket. -/
def readItems (depth : Nat) : (fuel : Nat) → List Char → Except Stop (List Value × List Char)
  | 0, cs => stopAt .expectingValue cs
  | fuel + 1, cs => do
      let (item, rest) ← readValue depth fuel cs
      match skipSpace rest with
      | ']' :: rest => .ok ([item], rest)
      | ',' :: rest =>
          let (items, rest) ← readItems depth fuel (skipSpace rest)
          .ok (item :: items, rest)
      | rest => stopAt .expectingComma rest

/-- The members of a mapping up to its closing brace. -/
def readMembers (depth : Nat) :
    (fuel : Nat) → List Char → Except Stop (List (Value × Value) × List Char)
  | 0, cs => stopAt .expectingName cs
  | fuel + 1, cs =>
      match cs with
      | '\x22' :: rest => do
          let (name, rest) ← readString cs.length rest
          match skipSpace rest with
          | ':' :: rest =>
              let (value, rest) ← readValue depth fuel (skipSpace rest)
              let member := (Value.text name, value)
              match skipSpace rest with
              | '\x7d' :: rest => .ok ([member], rest)
              | ',' :: rest =>
                  let (members, rest) ← readMembers depth fuel (skipSpace rest)
                  .ok (member :: members, rest)
              | rest => stopAt .expectingComma rest
          | rest => stopAt .expectingColon rest
      | _ => stopAt .expectingName cs

end

/-- A document: one value with nothing but white space around it. -/
def readDocument (cs : List Char) : Except Stop Value :=
  match cs with
  | '\ufeff' :: _ => stopAt .byteOrderMark cs
  | _ => do
      let (value, rest) ← readValue 0 (2 * cs.length + 2) (skipSpace cs)
      match skipSpace rest with
      | [] => .ok value
      | rest => stopAt .extraData rest

/-- Line and column of a position. -/
def place (cs : List Char) (position : Nat) : Nat × Nat :=
  let before := cs.take position
  let column := (before.reverse.takeWhile (· != '\n')).length + 1
  (before.count '\n' + 1, column)

/-- What is wrong with a text that was not read. -/
inductive Fault where
  | malformed (problem : Problem) (line column position : Nat)
  | tooManyDigits (count : Nat)
  | tooDeep (nest : Nest)
deriving DecidableEq, Repr

/-- Reads the document that characters hold. -/
def read (cs : List Char) : Except Fault Value :=
  match readDocument cs with
  | .ok value => .ok value
  | .error (.tooManyDigits count) => .error (.tooManyDigits count)
  | .error (.tooDeep nest) => .error (.tooDeep nest)
  | .error (.problem problem left) =>
      let position := cs.length - left
      let (line, column) := place cs position
      .error (.malformed problem line column position)

end VariantIter.Json
