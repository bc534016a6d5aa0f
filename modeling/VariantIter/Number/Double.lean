/-!
Floating-point numbers of double precision, as exact data.

A finite number is `mantissa * 2 ^ exponent` with a sign, the mantissa having at most 53 bits and the
exponent being at least -1074. `ofRatio` and `ofDecimal` round to the nearest such number, a tie going
to the even mantissa.
-/

namespace VariantIter

inductive Double where
  | finite (negative : Bool) (mantissa : Nat) (exponent : Int)
  | infinite (negative : Bool)
  | nan
deriving DecidableEq, Repr

namespace Double

/-- The quotient rounded to the nearest integer, a half going to the even one. -/
def roundDiv (n d : Nat) : Nat :=
  let q := n / d
  let r := n % d
  if d < 2 * r ∨ (2 * r = d ∧ q % 2 = 1) then q + 1 else q

/-- Numerator and denominator of `n / d * 2 ^ (-e)`. -/
def scaled (n d : Nat) (e : Int) : Nat × Nat :=
  if e < 0 then (n * Nat.pow 2 e.natAbs, d) else (n, d * Nat.pow 2 e.natAbs)

def zero (negative : Bool) : Double :=
  .finite negative 0 (-1074)

/-- The number nearest to `n / d`. -/
def ofRatio (negative : Bool) (n d : Nat) : Double :=
  if n = 0 then zero negative
  else
    let guess : Int := (n.log2 : Int) - d.log2 - 52
    let (sn, sd) := scaled n d guess
    let fitted := if sn / sd < Nat.pow 2 52 then guess - 1 else guess
    let exponent := max fitted (-1074)
    let (n', d') := scaled n d exponent
    let mantissa := roundDiv n' d'
    let (mantissa, exponent) :=
      if mantissa = Nat.pow 2 53 then (Nat.pow 2 52, exponent + 1) else (mantissa, exponent)
    if 971 < exponent then .infinite negative else .finite negative mantissa exponent

/-- The number nearest to `digits * 10 ^ exponent`, where `digits` has at most `places` digits.
Exponents that lead beyond the range are decided without the power of ten. -/
def ofDecimal (negative : Bool) (digits places : Nat) (exponent : Int) : Double :=
  if digits = 0 then zero negative
  else if 400 < exponent then .infinite negative
  else if places + exponent < -400 then zero negative
  else if exponent < 0 then ofRatio negative digits (Nat.pow 10 exponent.natAbs)
  else ofRatio negative (digits * Nat.pow 10 exponent.natAbs) 1

def isZero : Double → Bool
  | .finite _ mantissa _ => mantissa == 0
  | _ => false

def negate : Double → Double
  | .finite negative mantissa exponent => .finite (!negative) mantissa exponent
  | .infinite negative => .infinite (!negative)
  | .nan => .nan

/-- The size of a finite number as numerator and denominator. -/
def ratio (mantissa : Nat) (exponent : Int) : Nat × Nat :=
  if exponent < 0 then (mantissa, Nat.pow 2 exponent.natAbs)
  else (mantissa * Nat.pow 2 exponent.natAbs, 1)

/-- A finite number as numerator and denominator. -/
def signedRatio (negative : Bool) (mantissa : Nat) (exponent : Int) : Int × Nat :=
  let (n, d) := ratio mantissa exponent
  (if negative then -(n : Int) else n, d)

/-- The number nearest to a natural number, if that is in range. -/
def ofNat? (n : Nat) : Option Double :=
  match ofRatio false n 1 with
  | .infinite _ => none
  | x => some x

/-- The sum, rounded. -/
def add : Double → Double → Double
  | .finite s m e, .finite s' m' e' =>
      if m = 0 ∧ m' = 0 then zero (s && s')
      else
        let (n, d) := signedRatio s m e
        let (n', d') := signedRatio s' m' e'
        let sum := n * d' + n' * d
        ofRatio (decide (sum < 0)) sum.natAbs (d * d')
  | .nan, _ => .nan
  | _, .nan => .nan
  | .infinite s, .infinite s' => if s == s' then .infinite s else .nan
  | .infinite s, _ => .infinite s
  | _, .infinite s => .infinite s

/-- The product, rounded. -/
def mul : Double → Double → Double
  | .finite s m e, .finite s' m' e' =>
      let (n, d) := ratio m e
      let (n', d') := ratio m' e'
      ofRatio (s != s') (n * n') (d * d')
  | .nan, _ => .nan
  | _, .nan => .nan
  | .infinite s, .infinite s' => .infinite (s != s')
  | .infinite s, .finite s' m _ => if m = 0 then .nan else .infinite (s != s')
  | .finite s m _, .infinite s' => if m = 0 then .nan else .infinite (s != s')

/-- Equality as numbers: the two zeros are equal, and NaN equals nothing. -/
def same : Double → Double → Bool
  | .finite n m e, .finite n' m' e' => (m == 0 && m' == 0) || (n == n' && m == m' && e == e')
  | .infinite n, .infinite n' => n == n'
  | _, _ => false

/-- Equality of a number with an integer. -/
def equalsInt (x : Double) (k : Int) : Bool :=
  match x with
  | .finite negative mantissa exponent =>
      let (n, d) := signedRatio negative mantissa exponent
      n == k * d
  | _ => false

end Double

end VariantIter
