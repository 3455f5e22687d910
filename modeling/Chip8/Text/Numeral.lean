/-!
# Numerals

Integers as text, in the three ways the program writes them: decimal, decimal with the
thousands grouped by commas, and hexadecimal in upper case with a least width.

**Length** (`decimal?`). Decimal numerals of more than 4300 digits are neither read nor written,
hexadecimal ones may have any length. What is counted one by one, as bytes and instructions are,
never gets so long (`decimal`).

**Width** (`hex`). Zeros fill a numeral up to its least width, and a minus sign counts
towards it, so `-5` in width three is `-05`.
-/

namespace Chip8.Numeral

/-! ## Digits -/

/-- The character of a digit below sixteen. -/
def digitChar (d : Nat) : Char :=
  if d < 10 then Char.ofNat (48 + d) else Char.ofNat (55 + d)

/-- The digits of a number in a base of at least two, the leading one first. -/
def digits (base n : Nat) : List Nat :=
  if _h : 1 < base ∧ base ≤ n then digits base (n / base) ++ [n % base] else [n]
termination_by n
decreasing_by exact Nat.div_lt_self (by omega) (by omega)

/-- The characters of a number in a base. -/
def chars (base n : Nat) : List Char := (digits base n).map digitChar

/-! ## Writing -/

/-- The minus sign of a negative number. -/
def sign (n : Int) : List Char := if n < 0 then ['-'] else []

/-- The greatest number of decimal digits that is read or written. -/
def longest : Nat := 4300

/-- The decimal numeral of an integer. -/
def decimal (n : Int) : String := String.ofList (sign n ++ chars 10 n.natAbs)

/-- The decimal numeral of an integer that may be of any size, refused if it is too long. A minus
sign does not count. -/
def decimal? (n : Int) : Option String :=
  if longest < (chars 10 n.natAbs).length then none else some (decimal n)

/-- A hexadecimal numeral in upper case, filled with zeros up to a width that counts the
sign. -/
def hex (width : Nat) (n : Int) : String :=
  let body := chars 16 n.natAbs
  let fill := width - (sign n).length - body.length
  String.ofList (sign n ++ List.replicate fill '0' ++ body)

/-- Commas before every third character from the right. -/
def groupThousands (cs : List Char) : List Char :=
  match cs with
  | [] => []
  | c :: rest =>
    if rest.length % 3 = 0 ∧ rest ≠ [] then c :: ',' :: groupThousands rest
    else c :: groupThousands rest

/-- A decimal numeral with its thousands grouped. -/
def grouped (n : Int) : String :=
  String.ofList (sign n ++ groupThousands (chars 10 n.natAbs))

example : hex 3 (-5) = "-05" ∧ hex 2 300 = "12C" ∧ hex 3 10 = "00A" := by decide +kernel

example : grouped (-1000000) = "-1,000,000" ∧ grouped 999 = "999" := by decide +kernel

end Chip8.Numeral
