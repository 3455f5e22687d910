import Chip8.Number.Double
import Chip8.Text.Numeral

/-!
# Doubles as decimals

**Shortest** (`Double.shortest`). Of the decimals that round back to a double, one with the
fewest digits, and of those the nearest; on a tie the even one.

**Layout** (`Double.text`). Positional if the leading digit stands between the fourth place
after the point and the sixteenth before it, with at least one place after the point. Otherwise
one digit before the point and a signed exponent of at least two digits.

**Fixed places** (`Double.fixed`). Two places after the point, a half going to the even one.
-/

namespace Chip8.Double

/-! ## Powers of ten -/

/-- A power of ten with any exponent. -/
def tenPow (e : Int) : Rat :=
  if 0 ≤ e then (Nat.pow 10 e.toNat : Rat) else 1 / (Nat.pow 10 (-e).toNat : Rat)

/-- The least power of ten above a positive rational. -/
def scale (q : Rat) : Int :=
  if 1 ≤ q then (Numeral.digits 10 q.floor.toNat).length
  else
    let k : Int := 1 - (Numeral.digits 10 (1 / q).floor.toNat).length
    if tenPow k ≤ q then k + 1 else k

/-! ## Shortest decimals -/

/-- A natural number times a power of ten. -/
structure Scaled where
  digits : Nat
  exponent : Int
deriving Repr, DecidableEq

def Scaled.value (d : Scaled) : Rat := d.digits * tenPow d.exponent

/-- Of the two neighbours of `q` with a last place, one that rounds back to `q`. -/
def neighbour? (q : Rat) (place : Int) : Option Scaled :=
  let below := (q / tenPow place).floor.toNat
  let low : Scaled := ⟨below, place⟩
  let high : Scaled := ⟨below + 1, place⟩
  let toLow := q - low.value
  let toHigh := high.value - q
  let lowFirst := toLow < toHigh || (toLow = toHigh && below % 2 = 0)
  let candidates := if lowFirst then [low, high] else [high, low]
  candidates.find? fun d => round d.value = real q

/-- The shortest decimal that rounds back to a positive `q`; seventeen digits always do. -/
def shortest (q : Rat) : Scaled :=
  let k := scale q
  ((List.range 17).findSome? fun n => neighbour? q (k - ((n + 1 : Nat) : Int))).getD
    ⟨(q / tenPow (k - 17)).floor.toNat, k - 17⟩

/-- A scaled number without zeros at its end. -/
def dropZeros (fuel : Nat) (d : Scaled) : Scaled :=
  match fuel with
  | 0 => d
  | fuel + 1 =>
    if d.digits % 10 = 0 ∧ d.digits ≠ 0 then dropZeros fuel ⟨d.digits / 10, d.exponent + 1⟩ else d

/-! ## Layout -/

/-- Digits with the point before the place `point`, at least one digit on either side. -/
def positional (digits : List Char) (point : Int) : List Char :=
  if point ≤ 0 then '0' :: '.' :: List.replicate (-point).toNat '0' ++ digits
  else if point < digits.length then
    digits.take point.toNat ++ '.' :: digits.drop point.toNat
  else digits ++ List.replicate (point.toNat - digits.length) '0' ++ ['.', '0']

/-- Digits with the point after the first and an exponent. -/
def scientific (digits : List Char) (exponent : Int) : List Char :=
  let fraction := if digits.length ≤ 1 then [] else '.' :: digits.drop 1
  let sign := if exponent < 0 then '-' else '+'
  let places := Numeral.chars 10 exponent.natAbs
  digits.take 1 ++ fraction ++ 'e' :: sign :: List.replicate (2 - places.length) '0' ++ places

/-- A positive rational by its shortest decimal. -/
def positiveChars (q : Rat) : List Char :=
  let d := dropZeros 20 (shortest q)
  let digits := Numeral.chars 10 d.digits
  let point := digits.length + d.exponent
  if -4 < point ∧ point ≤ 16 then positional digits point else scientific digits (point - 1)

def text : Double → String
  | nan => "nan"
  | infinite s => if s then "-inf" else "inf"
  | negativeZero => "-0.0"
  | real q =>
    if q = 0 then "0.0"
    else if q < 0 then String.ofList ('-' :: positiveChars (-q))
    else String.ofList (positiveChars q)

/-- A magnitude with two places after the point. -/
def twoPlaces (q : Rat) : List Char :=
  let n := (nearest (q * 100)).toNat
  let places := Numeral.chars 10 (n % 100)
  Numeral.chars 10 (n / 100) ++ '.' :: List.replicate (2 - places.length) '0' ++ places

/-- A double with two places after the point, filled with blanks to a width. -/
def fixed (width : Nat) (x : Double) : String :=
  let body :=
    match x with
    | nan => "nan".toList
    | infinite s => (if s then "-inf" else "inf").toList
    | negativeZero => '-' :: twoPlaces 0
    | real q => if q < 0 then '-' :: twoPlaces (-q) else twoPlaces q
  String.ofList (List.replicate (width - body.length) ' ' ++ body)

example : (ofDecimal false 5994 (-2)).text = "59.94" ∧ (ofDecimal false 1 16).text = "1e+16"
    ∧ (ofDecimal true 1 (-5)).text = "-1e-05" ∧ (ofDecimal false 1 15).text = "1000000000000000.0"
    ∧ ((ofDecimal false 1 (-1)).add (ofDecimal false 2 (-1))).text = "0.30000000000000004" := by
  decide +kernel

example : (ofDecimal false 125 (-3)).fixed 8 = "    0.12" := by decide +kernel

end Chip8.Double
