import VariantIter.Number.Double
import VariantIter.Text.Digits

/-!
The text of a floating-point number: the fewest digits that read back as the number, the nearest of
those to it, in positional notation for exponents from -4 to 15 and with an exponent otherwise.
-/

namespace VariantIter.Double

/-- A value between the bounds of what rounds to it, all over the denominator `unit`. -/
structure Interval where
  low : Nat
  value : Nat
  high : Nat
  unit : Nat
  closed : Bool
deriving DecidableEq, Repr

/-- The interval of reals that round to `mantissa * 2 ^ exponent`. The gap below a power of two is
half as wide as the one above it; the ends belong to an even mantissa. -/
def interval (mantissa : Nat) (exponent : Int) : Interval :=
  let below := if mantissa = Nat.pow 2 52 ∧ -1074 < exponent then 1 else 2
  let factor := if exponent < 2 then 1 else Nat.pow 2 (exponent - 2).natAbs
  let unit := if exponent < 2 then Nat.pow 2 (2 - exponent).natAbs else 1
  ⟨(4 * mantissa - below) * factor, 4 * mantissa * factor, (4 * mantissa + 2) * factor, unit,
    mantissa % 2 == 0⟩

def Interval.contains (i : Interval) (x : Nat) : Bool :=
  if i.closed then decide (i.low ≤ x) && decide (x ≤ i.high)
  else decide (i.low < x) && decide (x < i.high)

/-- The least power of ten above a value below one, from `10 ^ (-j)` downward. -/
def smallMagnitude (value unit : Nat) : (fuel : Nat) → (j : Nat) → Int
  | 0, j => 1 - (j : Int)
  | fuel + 1, j =>
      if unit ≤ value * Nat.pow 10 j then 1 - (j : Int) else smallMagnitude value unit fuel (j + 1)

/-- The `k` with `10 ^ (k - 1) ≤ value / unit < 10 ^ k`. -/
def magnitude (value unit : Nat) : Int :=
  if unit ≤ value then ((Text.decimal (value / unit)).length : Int)
  else smallMagnitude value unit 400 1

/-- The neighbour of the value on the grid of multiples of `10 ^ t` that rounds to it, the nearer of
two, the even one of two equally near. -/
def onGrid (i : Interval) (t : Int) : Option Nat :=
  let up := if t < 0 then Nat.pow 10 t.natAbs else 1
  let step := if t < 0 then i.unit else i.unit * Nat.pow 10 t.natAbs
  let wide : Interval := ⟨i.low * up, i.value * up, i.high * up, i.unit, i.closed⟩
  let below := wide.value / step
  let above := below + 1
  match wide.contains (below * step), wide.contains (above * step) with
  | true, true =>
      let downward := wide.value - below * step
      let upward := above * step - wide.value
      if downward < upward ∨ (downward = upward ∧ below % 2 = 0) then some below else some above
  | true, false => some below
  | false, true => some above
  | false, false => none

/-- The first grid, from `count` digits on, with a point that rounds to the value. -/
def firstGrid (i : Interval) (k : Int) : (fuel : Nat) → (count : Nat) → Nat × Int
  | 0, count => (i.value / i.unit, k - count)
  | fuel + 1, count =>
      match onGrid i (k - count) with
      | some digits => (digits, k - count)
      | none => firstGrid i k fuel (count + 1)

/-- The fewest digits of a finite number other than zero, and the place of the point after their
first `place` digits. -/
def shortest (mantissa : Nat) (exponent : Int) : List Char × Int :=
  let i := interval mantissa exponent
  let (digits, t) := firstGrid i (magnitude i.value i.unit) 17 1
  let all := Text.decimal digits
  ((all.reverse.dropWhile (· == '0')).reverse, all.length + t)

/-- The digits with a point after the first `place` of them. -/
def positional (digits : List Char) (place : Int) : List Char :=
  if place ≤ 0 then '0' :: '.' :: List.replicate place.natAbs '0' ++ digits
  else
    let count := place.natAbs
    if digits.length ≤ count then
      digits ++ List.replicate (count - digits.length) '0' ++ ['.', '0']
    else digits.take count ++ '.' :: digits.drop count

/-- The digits with a point after the first of them and an exponent of two digits at least. -/
def exponential (digits : List Char) (place : Int) : List Char :=
  let exponent := place - 1
  let size := Text.decimal exponent.natAbs
  let fraction := match digits.drop 1 with
    | [] => []
    | rest => '.' :: rest
  digits.take 1 ++ fraction ++ 'e' :: (if exponent < 0 then '-' else '+') ::
    (if size.length < 2 then '0' :: size else size)

def signed (negative : Bool) (cs : List Char) : List Char :=
  if negative then '-' :: cs else cs

/-- The characters of a number. -/
def chars : Double → List Char
  | .nan => ['n', 'a', 'n']
  | .infinite negative => signed negative ['i', 'n', 'f']
  | .finite negative mantissa exponent =>
      if mantissa = 0 then signed negative ['0', '.', '0']
      else
        let (digits, place) := shortest mantissa exponent
        signed negative <|
          if -4 < place ∧ place ≤ 16 then positional digits place else exponential digits place

/-- The text of a number. -/
def text (x : Double) : Text :=
  Text.ofChars x.chars

end VariantIter.Double
