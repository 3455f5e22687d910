import Chip8.Fault
import Chip8.Number.Decimal

/-!
# Numbers

Clock readings, intervals and frequencies are numbers: exact integers or doubles.

**Mixing** (`Number`). Integers among themselves stay exact, except in a quotient, which is the
double nearest to the exact one. An integer that meets a double becomes one first, and one too
large for that is refused.

**Comparing** (`Number.compare?`). By value, an integer and a double included, without rounding.

**Clock arithmetic** (`ClockArithmetic`). What pacing needs of its numbers: the four operations,
whole parts and comparison. Numbers have it, and so have the exact rationals, for which every
quotient but that by zero exists and nothing is rounded.
-/

namespace Chip8

/-- An exact integer or a double. -/
inductive Number where
  | integer (n : Int)
  | double (x : Double)
deriving DecidableEq

/-- What pacing needs of its numbers. -/
class ClockArithmetic (κ : Type) where
  /-- The number of an integer. -/
  ofInt : Int → κ
  /-- The start of a clock that counts fractions. -/
  zero : κ
  add : κ → κ → Except Fault κ
  sub : κ → κ → Except Fault κ
  mul : κ → κ → Except Fault κ
  div : κ → κ → Except Fault κ
  /-- The floor of the half. -/
  floorHalf : κ → κ
  /-- The greatest integer below. -/
  floor : κ → Except Fault Int
  /-- The integer towards zero. -/
  trunc : κ → Except Fault Int
  lt : κ → κ → Bool
  /-- The values are equal. -/
  beq : κ → κ → Bool
  /-- The text of a number. -/
  text : κ → Except Fault String

namespace ClockArithmetic

variable {κ : Type} [ClockArithmetic κ]

def le (a b : κ) : Bool := lt a b || beq a b

/-- The greater of two numbers, the first unless the second is greater. -/
def larger (a b : κ) : κ := if lt a b then b else a

/-- The smaller of two numbers, the first unless the second is smaller. -/
def smaller (a b : κ) : κ := if lt b a then b else a

end ClockArithmetic

/-! ## Whole parts of doubles -/

namespace Double

/-- The value of a finite double; the others have no whole part. -/
def finite : Double → Except Fault Rat
  | nan => .error .notANumber
  | infinite _ => .error .outOfRange
  | negativeZero => .ok 0
  | real q => .ok q

/-- The double of an integer, if there is a finite one. -/
def ofInt (n : Int) : Except Fault Double :=
  match round n with
  | infinite _ => .error .outOfRange
  | x => .ok x

end Double

namespace Number

/-! ## Arithmetic -/

def toDouble : Number → Except Fault Double
  | integer n => Double.ofInt n
  | double x => .ok x

/-- An operation on integers, or on doubles if one of the two is a double. -/
def mixed (exact : Int → Int → Int) (rounded : Double → Double → Double) :
    Number → Number → Except Fault Number
  | integer m, integer n => .ok (integer (exact m n))
  | a, b => return double (rounded (← a.toDouble) (← b.toDouble))

/-- The double nearest to a quotient of integers. -/
def intQuotient (m n : Int) : Except Fault Number :=
  if n = 0 then .error .divisionByZero
  else
    match Double.round (m / n : Rat) with
    | .infinite _ => .error .outOfRange
    | .real q => .ok (double (if q = 0 then Double.zero ((m < 0) != (n < 0)) else .real q))
    | x => .ok (double x)

/-- The quotient, a double. -/
def quotient : Number → Number → Except Fault Number
  | integer m, integer n => intQuotient m n
  | a, b => do
    let x ← a.toDouble
    let y ← b.toDouble
    if y.isZero then .error .inexactDivisionByZero else return double (x.div y)

/-! ## Comparing -/

/-- The order of two doubles, none with a value that is no number. -/
def compareDoubles? : Double → Double → Option Ordering
  | .nan, _ => none
  | _, .nan => none
  | .infinite s, .infinite t => some (if s = t then .eq else if s then .lt else .gt)
  | .infinite s, _ => some (if s then .lt else .gt)
  | _, .infinite t => some (if t then .gt else .lt)
  | x, y =>
    let a := x.value?.getD 0
    let b := y.value?.getD 0
    some (if a < b then .lt else if a = b then .eq else .gt)

/-- The number without a limit on its precision. -/
def unlimited : Number → Double
  | integer n => .real n
  | double x => x

/-- The order of two numbers. -/
def compare? (a b : Number) : Option Ordering := compareDoubles? a.unlimited b.unlimited

/-! ## Text -/

def text : Number → Except Fault String
  | integer n => decimalText n
  | double x => .ok x.text

instance : ClockArithmetic Number where
  ofInt := integer
  zero := double (.real 0)
  add := mixed (· + ·) Double.add
  sub := mixed (· - ·) Double.sub
  mul := mixed (· * ·) Double.mul
  div := quotient
  floorHalf
    | integer n => integer (n / 2)
    | double x => double x.floorHalf
  floor
    | integer n => .ok n
    | double x => return (← x.finite).floor
  trunc
    | integer n => .ok n
    | double x => do
      let q ← x.finite
      return q.num.tdiv q.den
  lt a b := a.compare? b = some .lt
  beq a b := a.compare? b = some .eq
  text := text

end Number

/-! ## Exact rationals -/

/-- The text of a rational, a fraction unless it is an integer. -/
def fractionText (q : Rat) : String :=
  if q.den = 1 then Numeral.decimal q.num
  else Numeral.decimal q.num ++ "/" ++ Numeral.decimal q.den

instance : ClockArithmetic Rat where
  ofInt n := n
  zero := 0
  add a b := .ok (a + b)
  sub a b := .ok (a - b)
  mul a b := .ok (a * b)
  div a b := if b = 0 then .error .divisionByZero else .ok (a / b)
  floorHalf a := ((a / 2).floor : Int)
  floor a := .ok a.floor
  trunc a := .ok (a.num.tdiv a.den)
  lt a b := a < b
  beq a b := a = b
  text a := .ok (fractionText a)

end Chip8
