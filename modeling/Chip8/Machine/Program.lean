import Chip8.Machine.Execute

/-!
# Programs

**Loading** (`loadProgram`). A program is a string of bytes that goes into memory from the first
instruction's address on, and must fit above it.

**Listing** (`disassemble`). Consecutive words with their instructions, for any start. Addresses
are listed as counted and wrap only to find the word.
-/

namespace Chip8

/-- A program. -/
abbrev Program := List UInt8

/-- Finds the bytes of a file by its path. -/
abbrev FileReader := String → Except Fault Program

def longestProgram : Nat := 4096 - programStart

/-- A line of a listing. -/
structure ListingRow where
  address : Int
  word : UInt16
deriving Repr, DecidableEq

def ListingRow.instruction (r : ListingRow) : Instruction := Instruction.decodeWord r.word

/-- The 32-bit word for an integer; the others are refused. -/
def narrow (n : Int) : Except Fault Int32 :=
  match narrow? n with
  | some w => .ok w
  | none => .error .outOfRange

namespace Machine

/-- Writes a program into memory. -/
def loadProgram (m : Machine) (program : Program) : Except Fault Machine :=
  if longestProgram < program.length then .error (.programTooLong program.length)
  else .ok { m with memory := m.memory.overwrite programStart program }

/-- The row of a listing at an address. -/
def listingRow (m : Machine) (address : Int) : Except Fault ListingRow :=
  (narrow address).map fun a => ⟨address, m.word a⟩

/-- The listing of some words from an address on. -/
def disassemble (m : Machine) (start : Int) (count : Int) : Except Fault (List ListingRow) :=
  (List.range count.toNat).mapM fun i : Nat => m.listingRow (start + (i * wordSize : Nat))

end Machine

end Chip8
