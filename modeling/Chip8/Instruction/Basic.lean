import Chip8.Text.Numeral

/-!
# Instructions

Every instruction word stands for exactly one of 35 instructions, the last resort being the
one that does nothing.

**Operands.** Registers are numbered 0 to 15. Bytes, addresses and sprite heights are plain
integers: a word yields small ones, but an instruction may be built by hand with any.

**Traits.** An instruction may set the program counter itself (`transfersControl`), need a
held key to complete (`blocking`), or move the stack pointer (`stackChange`).
-/

namespace Chip8

/-- One of the sixteen registers. -/
abbrev Register := Fin 16

/-- The register added to the target of a jump. -/
def firstRegister : Register := ⟨0, by decide⟩

/-- The register that holds carries, borrows and collisions. -/
def flagRegister : Register := ⟨15, by decide⟩

/-- A decoded instruction. -/
inductive Instruction where
  /-- `00E0`: clear the screen. -/
  | clearScreen
  /-- `00EE`: return from a subroutine. -/
  | ret
  /-- Any word of no known form. -/
  | noOperation
  /-- `1NNN`: jump to `NNN`. -/
  | jump (address : Int)
  /-- `2NNN`: call the subroutine at `NNN`. -/
  | call (address : Int)
  /-- `BNNN`: jump to `NNN + V0`. -/
  | jumpOffset (address : Int)
  /-- `3XKK`: skip the next instruction if `VX = KK`. -/
  | skipEqualByte (x : Register) (byte : Int)
  /-- `4XKK`: skip the next instruction if `VX ≠ KK`. -/
  | skipNotEqualByte (x : Register) (byte : Int)
  /-- `5XY0`: skip the next instruction if `VX = VY`. -/
  | skipEqualRegister (x y : Register)
  /-- `9XY0`: skip the next instruction if `VX ≠ VY`. -/
  | skipNotEqualRegister (x y : Register)
  /-- `EX9E`: skip the next instruction if key `VX` is held. -/
  | skipKeyPressed (x : Register)
  /-- `EXA1`: skip the next instruction if key `VX` is not held. -/
  | skipKeyNotPressed (x : Register)
  /-- `6XKK`: `VX` becomes `KK`. -/
  | loadByte (x : Register) (byte : Int)
  /-- `7XKK`: add `KK` to `VX`, without carry. -/
  | addByte (x : Register) (byte : Int)
  /-- `ANNN`: the index becomes `NNN`. -/
  | loadIndex (address : Int)
  /-- `CXKK`: `VX` becomes a random byte masked by `KK`. -/
  | random (x : Register) (byte : Int)
  /-- `8XY0`: `VX` becomes `VY`. -/
  | loadRegister (x y : Register)
  /-- `8XY1`: bitwise or of `VY` into `VX`. -/
  | bitOr (x y : Register)
  /-- `8XY2`: bitwise and of `VY` into `VX`. -/
  | bitAnd (x y : Register)
  /-- `8XY3`: bitwise exclusive or of `VY` into `VX`. -/
  | bitXor (x y : Register)
  /-- `8XY4`: add `VY` to `VX`, the flag is the carry. -/
  | addRegister (x y : Register)
  /-- `8XY5`: subtract `VY` from `VX`, the flag says `VX > VY`. -/
  | subtract (x y : Register)
  /-- `8XY6`: shift `VX` right, the flag is the bit shifted out. -/
  | shiftRight (x : Register)
  /-- `8XY7`: `VX` becomes `VY - VX`, the flag says `VY > VX`. -/
  | subtractReversed (x y : Register)
  /-- `8XYE`: shift `VX` left, the flag is the bit shifted out. -/
  | shiftLeft (x : Register)
  /-- `DXYN`: draw an `N`-row sprite at `(VX, VY)`, the flag says collision. -/
  | draw (x y : Register) (height : Int)
  /-- `FX07`: `VX` becomes the delay timer. -/
  | loadDelayTimer (x : Register)
  /-- `FX0A`: wait for a key, `VX` becomes its number. -/
  | waitForKey (x : Register)
  /-- `FX15`: the delay timer becomes `VX`. -/
  | setDelayTimer (x : Register)
  /-- `FX18`: the sound timer becomes `VX`. -/
  | setSoundTimer (x : Register)
  /-- `FX1E`: add `VX` to the index. -/
  | addIndex (x : Register)
  /-- `FX29`: the index becomes the address of the sprite of digit `VX`. -/
  | loadSprite (x : Register)
  /-- `FX33`: store the decimal digits of `VX` from the index on. -/
  | storeDigits (x : Register)
  /-- `FX55`: store `V0` to `VX` from the index on. -/
  | storeRegisters (x : Register)
  /-- `FX65`: load `V0` to `VX` from the index on. -/
  | loadRegisters (x : Register)
deriving Repr, DecidableEq

namespace Instruction

/-! ## Traits -/

/-- The instruction sets the program counter itself; all others advance past their word. -/
def transfersControl : Instruction → Bool
  | ret | jump _ | call _ | jumpOffset _ => true
  | _ => false

/-- The instruction cannot complete until a key is held. -/
def blocking : Instruction → Bool
  | waitForKey _ => true
  | _ => false

/-- The bytes by which the instruction moves the stack pointer. -/
def stackChange : Instruction → Int
  | call _ => 2
  | ret => -2
  | _ => 0

end Instruction

end Chip8
