/-!
# Doubles

Binary fractions of limited precision, as the rational numbers they stand for.

**Values** (`Double`). A finite value is a rational; the negative zero, the two infinities and
the value that is no number stand beside them.

**Rounding** (`Double.round`). The one way a rational becomes a double: to the nearest multiple
of its spacing, a half to the even one. The spacing is `2 ^ (k - 52)` for magnitudes from
`2 ^ k` on, and never below `2 ^ (-1074)`. From `2 ^ 1024` on there are only the infinities.

**Arithmetic.** Each operation is the exact one on rationals, rounded once.
-/

namespace Chip8

/-- A number of limited precision. -/
inductive Double where
  | nan
  | infinite (negative : Bool)
  | negativeZero
  | real (value : Rat)
deriving DecidableEq

namespace Double

/-! ## Rounding -/

/-- The nearest integer, a half to the even one. -/
def nearest (q : Rat) : Int :=
  let k := q.floor
  if q - k < 1 / 2 then k else if 1 / 2 < q - k then k + 1 else k + k % 2

/-- A power of two with any exponent. -/
def twoPow (e : Int) : Rat :=
  if 0 ≤ e then (Nat.pow 2 e.toNat : Rat) else 1 / (Nat.pow 2 (-e).toNat : Rat)

/-- The exponent of the greatest power of two that a positive rational reaches. -/
def leading (q : Rat) : Int :=
  let k : Int := (q.num.natAbs.log2 : Int) - q.den.log2
  if twoPow k ≤ q then k else k - 1

/-- The spacing of the doubles around a positive rational. -/
def spacing (q : Rat) : Rat := twoPow (max (leading q - 52) (-1074))

/-- The nearest double to a positive rational, before the range is looked at. -/
def roundPositive (q : Rat) : Rat := nearest (q / spacing q) * spacing q

def zero (negative : Bool) : Double := if negative then negativeZero else real 0

/-- The finite value or, out of range, the infinity of a sign. -/
def ofMagnitude (negative : Bool) (q : Rat) : Double :=
  if q = 0 then zero negative
  else if twoPow 1024 ≤ q then infinite negative
  else real (if negative then -q else q)

/-- The double of a rational. -/
def round (q : Rat) : Double :=
  if q = 0 then real 0
  else if q < 0 then ofMagnitude true (roundPositive (-q))
  else ofMagnitude false (roundPositive q)

/-- The double of `digits * 10 ^ exponent`, of either sign. -/
def ofDecimal (negative : Bool) (digits : Nat) (exponent : Int) : Double :=
  let q : Rat :=
    if 0 ≤ exponent then (digits : Rat) * (Nat.pow 10 exponent.toNat : Rat)
    else (digits : Rat) / (Nat.pow 10 (-exponent).toNat : Rat)
  if q = 0 then zero negative else round (if negative then -q else q)

/-! ## Signs and values -/

/-- The sign bit. -/
def negative : Double → Bool
  | nan => false
  | infinite s => s
  | negativeZero => true
  | real q => q < 0

/-- The rational a finite double stands for. -/
def value? : Double → Option Rat
  | nan => none
  | infinite _ => none
  | negativeZero => some 0
  | real q => some q

/-- The value is a zero of either sign. -/
def isZero (x : Double) : Bool := x.value? = some 0

def neg : Double → Double
  | nan => nan
  | infinite s => infinite !s
  | negativeZero => real 0
  | real q => if q = 0 then negativeZero else real (-q)

/-! ## Arithmetic -/

def add : Double → Double → Double
  | nan, _ => nan
  | _, nan => nan
  | infinite s, infinite t => if s = t then infinite s else nan
  | infinite s, _ => infinite s
  | _, infinite t => infinite t
  | negativeZero, y => y
  | x, negativeZero => x
  | real a, real b => round (a + b)

def sub (x y : Double) : Double := x.add y.neg

def mul (x y : Double) : Double :=
  let s := x.negative != y.negative
  match x, y with
  | nan, _ => nan
  | _, nan => nan
  | infinite _, y => if y.isZero then nan else infinite s
  | x, infinite _ => if x.isZero then nan else infinite s
  | negativeZero, _ => zero s
  | _, negativeZero => zero s
  | real a, real b => if a * b = 0 then zero s else round (a * b)

/-- The quotient by a divisor other than zero. -/
def div (x y : Double) : Double :=
  let s := x.negative != y.negative
  match x, y with
  | nan, _ => nan
  | _, nan => nan
  | infinite _, infinite _ => nan
  | infinite _, _ => infinite s
  | _, infinite _ => zero s
  | negativeZero, _ => zero s
  | _, negativeZero => nan
  | real a, real b => if a = 0 then zero s else round (a / b)

/-- The floor of the half; an infinite value has none. -/
def floorHalf : Double → Double
  | nan => nan
  | infinite _ => nan
  | negativeZero => negativeZero
  | real q => real ((q / 2).floor : Int)

/-- Three tenths are not the sum of one and two. -/
example : (ofDecimal false 1 (-1)).add (ofDecimal false 2 (-1)) ≠ ofDecimal false 3 (-1) := by
  decide +kernel

/-- A half of the least double goes to zero, and the greatest double doubled is infinite. -/
example : (round (twoPow (-1074))).mul (round (1 / 2)) = real 0
    ∧ (round (twoPow 1023)).add (round (twoPow 1023)) = infinite false := by
  decide +kernel

end Double

end Chip8
