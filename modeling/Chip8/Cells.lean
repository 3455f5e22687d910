import Chip8.Bits

/-!
# Rows of byte cells

Every store of the machine is a row of byte cells of fixed length.

**Positions** (`position`). A negative index counts from the end of the row, once.

**Outside the row.** A read takes the nearest cell (`read`); a write is dropped (`write`).

**Blocks** (`overwrite`). A list of bytes replaces the cells from a start on.
-/

namespace Chip8

/-- A row of `n` byte cells. -/
abbrev Cells (n : Nat) := Vector UInt8 n

namespace Cells

variable {n : Nat}

def zero (n : Nat) : Cells n := Vector.replicate n 0

/-- The position an index names: a negative one has the length added once. -/
def position (n : Nat) (i : Int) : Int := if i < 0 then i + n else i

/-- The cell at an index; outside the row, the nearest one. -/
def read (cells : Cells n) (i : Int) : UInt8 :=
  cells[min (position n i).toNat (n - 1)]?.getD 0

/-- Replaces the cell at an index; outside the row, nothing. -/
def write (cells : Cells n) (i : Int) (b : UInt8) : Cells n :=
  if 0 ≤ position n i then cells.setIfInBounds (position n i).toNat b else cells

/-- Replaces the cells from `start` on by a list of bytes; what does not fit is dropped. -/
def overwrite (cells : Cells n) (start : Nat) : List UInt8 → Cells n
  | [] => cells
  | b :: bytes => overwrite (cells.setIfInBounds start b) (start + 1) bytes

end Cells

end Chip8
