import VariantIter.Number.Reading
import VariantIter.Number.Shortest
import VariantIter.Text.Literal
import VariantIter.Value.Basic

/-!
How messages show a value.

`literal` quotes texts, also inside of collections; `display` shows a text as itself and days and
moments in the usual form, and is `literal` for everything else. A collection inside of itself is shown
by dots. Integers of more than 4300 digits are not shown at all: `isShowable` is false of a value that
holds one.
-/

namespace VariantIter

/-- One byte of a literal between the quotes `quote`. -/
def literalByte (quote : CodePoint) (b : UInt8) : Text :=
  let c : CodePoint := .char (Char.ofNat b.toNat)
  if b.toNat < 0x80 then Text.literalPoint quote c else Text.codeEscape b.toNat

/-- Bytes as messages show them. -/
def literalBytes (bs : List UInt8) : Text :=
  let quote := Text.literalQuote (bs.map fun b => .char (Char.ofNat b.toNat))
  .char 'b' :: quote :: bs.flatMap (literalByte quote) ++ [quote]

/-- Items in parentheses; a single one has a comma after it. -/
def literalTuple : List Text → Text
  | [item] => "(" ++ item ++ ",)"
  | items => "(" ++ Text.joined ", " items ++ ")"

/-- Items in braces; without items there are no braces, which would be those of a mapping. -/
def literalSet : List Text → Text
  | [] => "set()"
  | items => "\x7b" ++ Text.joined ", " items ++ "\x7d"

namespace Value

/-- What is shown for a collection inside of itself. -/
def dots : Value → Text
  | .map _ => "\x7b...\x7d"
  | _ => "[...]"

mutual

/-- A value with its texts quoted, inside of the given knots. -/
def literalIn (around : List (Nat × Text)) : Value → Text
  | .null => "None"
  | .bool true => "True"
  | .bool false => "False"
  | .int n => Text.ofInt n
  | .double x => x.text
  | .text s => Text.literal s
  | .bytes bs => literalBytes bs
  | .date d => d.literal
  | .moment m => m.literal
  | .list items => "[" ++ Text.joined ", " (literals around items) ++ "]"
  | .tuple items => literalTuple (literals around items)
  | .set items => literalSet (literals around items)
  | .map entries => "\x7b" ++ Text.joined ", " (entryLiterals around entries) ++ "\x7d"
  | .shared _ value => literalIn around value
  | .knot label value =>
      match around.lookup label with
      | some dots => dots
      | none => literalIn ((label, value.dots) :: around) value
  | .again label => (around.lookup label).getD "..."

def literals (around : List (Nat × Text)) : List Value → List Text
  | [] => []
  | item :: items => literalIn around item :: literals around items

def entryLiterals (around : List (Nat × Text)) : List (Value × Value) → List Text
  | [] => []
  | (key, value) :: entries =>
      (literalIn around key ++ ": " ++ literalIn around value) :: entryLiterals around entries

end

/-- A value with its texts quoted. -/
def literal (value : Value) : Text :=
  value.literalIn []

/-- A value as running text shows it. -/
def display : Value → Text
  | .text s => s
  | .date d => d.text
  | .moment m => m.text
  | .shared _ value => value.display
  | value => value.literal

/-- The first integer that has too many digits to be shown. -/
def showLimit : Nat := Nat.pow 10 Number.maxDigits

mutual

/-- Whether no integer in a value has too many digits to be shown. -/
def isShowable : Value → Bool
  | .int n => decide (n.natAbs < showLimit)
  | .list items => allShowable items
  | .tuple items => allShowable items
  | .set items => allShowable items
  | .map entries => entriesShowable entries
  | .shared _ value => value.isShowable
  | .knot _ value => value.isShowable
  | _ => true

def allShowable : List Value → Bool
  | [] => true
  | item :: items => item.isShowable && allShowable items

def entriesShowable : List (Value × Value) → Bool
  | [] => true
  | (key, value) :: entries => key.isShowable && value.isShowable && entriesShowable entries

end

end Value

end VariantIter
