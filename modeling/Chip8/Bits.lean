/-!
# Machine numbers

The machine computes on 32-bit signed words and keeps bytes and 16-bit words in its state.

**Narrowing** (`narrow?`). An integer enters the arithmetic only if it fits a 32-bit word.

**Widening** (`widen`, `widenWord`). Bytes and 16-bit words enter as they are.

**Shifting out** (`shiftOut`). A left shift within eight bits, zero once every bit has left.

**Decimal digits** (`Digits`). A byte as hundreds, tens and ones.
-/

namespace Chip8

/-! ## Words -/

/-- The 32-bit word for an integer, if it has one. -/
def narrow? (n : Int) : Option Int32 :=
  if -2147483648 ≤ n ∧ n ≤ 2147483647 then some (Int32.ofInt n) else none

/-- A byte as a 32-bit word. -/
def widen (b : UInt8) : Int32 := Int32.ofNat b.toNat

/-- A 16-bit word as a 32-bit word. -/
def widenWord (w : UInt16) : Int32 := Int32.ofNat w.toNat

def lowByte (w : Int32) : UInt8 := UInt8.ofInt w.toInt

def lowWord (w : Int32) : UInt16 := UInt16.ofInt w.toInt

/-! ## Shifting out -/

/-- The eight low bits of `value`, shifted left; a shift of eight or more, or a negative one,
leaves nothing. -/
def shiftOut (value shift : Int32) : Int32 :=
  if shift &&& ~~~7 ≠ 0 then 0 else (value <<< (shift &&& 7)) &&& 0xFF

/-! ## Decimal digits -/

/-- Three decimal digits. -/
structure Digits where
  hundreds : Nat
  tens : Nat
  ones : Nat
deriving Repr, DecidableEq

namespace Digits

/-- The digits of an integer's low byte. -/
def ofInt (n : Int) : Digits :=
  let b := (n % 256).toNat
  ⟨b / 100, b / 10 % 10, b % 10⟩

/-- The digits from the hundreds down. -/
def toList (d : Digits) : List Nat := [d.hundreds, d.tens, d.ones]

end Digits

end Chip8
