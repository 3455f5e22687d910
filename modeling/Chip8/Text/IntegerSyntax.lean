import Chip8.Text.CharacterClass
import Chip8.Text.Numeral

/-!
# Integers as text

Blanks may surround the text of an integer. A sign may come first; then there are digits of any
script, with single underscores between them. More digits than `Numeral.longest` are refused.
-/

namespace Chip8.IntegerSyntax

open CharacterClass

/-- The text without the blanks around it. -/
def trim (cs : List Char) : List Char :=
  ((cs.dropWhile isBlank).reverse.dropWhile isBlank).reverse

/-- The values of digits, of which an underscore may stand before any but the first. -/
def digits? (afterDigit : Bool) : List Char → Option (List Nat)
  | [] => if afterDigit then some [] else none
  | '_' :: cs => if afterDigit then digits? false cs else none
  | c :: cs => do
    let d ← digitValue? c
    return d :: (← digits? true cs)

/-- The number of decimal digits from the leading one on. -/
def ofDigits (ds : List Nat) : Nat := ds.foldl (fun n d => 10 * n + d) 0

/-- The natural number of a text without a sign. -/
def natural? (cs : List Char) : Option Nat := do
  let ds ← digits? false cs
  if Numeral.longest < ds.length then none else some (ofDigits ds)

/-- The integer of a text without blanks around it. -/
def signed? : List Char → Option Int
  | '-' :: cs => (natural? cs).map fun n => -(n : Int)
  | '+' :: cs => (natural? cs).map fun n => (n : Int)
  | cs => (natural? cs).map fun n => (n : Int)

/-- The integer of a text. -/
def read? (s : String) : Option Int := signed? (trim s.toList)

example : read? " +1_000 " = some 1000 ∧ read? "-007" = some (-7) ∧ read? "1__0" = none
    ∧ read? "0x10" = none ∧ read? "" = none := by
  decide +kernel

end Chip8.IntegerSyntax
