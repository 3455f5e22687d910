import Chip8.Font
import Chip8.Instruction.Basic
import Chip8.Random
import Chip8.Screen

/-!
# The machine

**The state** (`Machine`). Sixteen registers, an index, a program counter, a stack pointer, two
timers, the mask of held keys, the key of the random stream, and three stores of bytes: stack,
screen and memory.

**Addresses.** Memory has 4096 cells and addresses wrap. Single bytes are found by the low
twelve bits of an address (`masked`); an instruction word is found by the remainders of two
consecutive addresses (`wrapped`).

**Program counter** (`jump`, `advance`). Targets are reduced to twelve bits; other code may have
left a larger value in it.

**Timers** (`tickTimers`). Both count down and stop at zero.
-/

namespace Chip8

/-- The state of the machine. -/
structure Machine where
  registers : Cells 16
  index : UInt16
  pc : UInt16
  sp : UInt8
  delay : UInt8
  sound : UInt8
  /-- Bit `k` is set while key `k` is held. -/
  keys : UInt16
  random : RandomKey
  stack : Cells 64
  screen : Screen
  memory : Cells 4096
deriving DecidableEq

/-! ## Addresses -/

/-- The address of the first instruction. -/
def programStart : Nat := 0x200

/-- The bytes of an instruction word. -/
def wordSize : Nat := 2

/-- The cell of an address by its low twelve bits. -/
def masked (address : Int32) : Fin 4096 :=
  ⟨(address.toBitVec &&& 0xFFF#32).toNat, by
    rw [BitVec.toNat_and]
    exact Nat.lt_of_le_of_lt Nat.and_le_right (by decide)⟩

/-- The cell of an address by its remainder. -/
def wrapped (address : Int32) : Fin 4096 := ⟨(address.toInt % 4096).toNat, by omega⟩

/-- Two bytes as a word, the high one first. -/
def bytesToWord (high low : UInt8) : UInt16 := (high.toUInt16 <<< 8) ||| low.toUInt16

namespace Machine

/-! ## Registers -/

def register (m : Machine) (x : Register) : UInt8 := m.registers[x]

def setRegister (m : Machine) (x : Register) (b : UInt8) : Machine :=
  { m with registers := m.registers.set x b }

/-! ## Memory -/

def load (m : Machine) (address : Int32) : UInt8 := m.memory[masked address]

def store (m : Machine) (address : Int32) (b : UInt8) : Machine :=
  { m with memory := m.memory.set (masked address) b }

def word (m : Machine) (address : Int32) : UInt16 :=
  bytesToWord m.memory[wrapped address] m.memory[wrapped (address + 1)]

/-! ## Program counter -/

/-- Continues at an address. -/
def jump (m : Machine) (address : Int32) : Machine :=
  { m with pc := UInt16.ofNat (masked address) }

/-- Continues some bytes further on. -/
def advance (m : Machine) (amount : Int32) : Machine := m.jump (widenWord m.pc + amount)

/-! ## Timers -/

/-- A timer some ticks later. -/
def countDown (ticks : Int32) (timer : UInt8) : UInt8 :=
  let left := widen timer - ticks
  if left < 0 then 0 else lowByte left

def tickTimers (m : Machine) (ticks : Int32) : Machine :=
  { m with delay := countDown ticks m.delay, sound := countDown ticks m.sound }

/-! ## Power -/

/-- All zero but the random key. -/
def blank (random : RandomKey) : Machine where
  registers := Cells.zero 16
  index := 0
  pc := 0
  sp := 0
  delay := 0
  sound := 0
  keys := 0
  random := random
  stack := Cells.zero 64
  screen := Screen.dark
  memory := Cells.zero 4096

def storeFont (m : Machine) : Machine :=
  { m with memory := m.memory.overwrite Font.start Font.glyphs }

/-- Writes the font and continues at the first instruction. -/
def boot (m : Machine) : Machine := m.storeFont.jump (Int32.ofNat programStart)

/-- The machine after power on. -/
def powerOn (random : RandomKey) : Machine := (blank random).boot

/-- The machine after power on, with the random stream continued. -/
def reset (m : Machine) : Machine := powerOn m.random

end Machine

end Chip8
