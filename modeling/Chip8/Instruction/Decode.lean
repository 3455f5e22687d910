import Chip8.Instruction.Basic

/-!
# Instruction words

The leading digit of a word selects a family, the others are operands or select within it.

**Decoding** (`Instruction.decode`). Total: a word of no known form does nothing. An integer
of any size counts by its low sixteen bits.

**Encoding** (`Instruction.encode`). The word of an instruction, digits without a meaning
being zero. An operand that does not fit its field spills over.
-/

namespace Chip8.Instruction

/-! ## Fields of a word -/

/-- The leading digit. -/
def family (w : UInt16) : Nat := (w >>> 12).toNat

/-- The second digit, as a register. -/
def fieldX (w : UInt16) : Register := ⟨(w >>> 8).toNat % 16, by omega⟩

/-- The third digit, as a register. -/
def fieldY (w : UInt16) : Register := ⟨(w >>> 4).toNat % 16, by omega⟩

def lowDigit (w : UInt16) : Nat := (w &&& 0xF).toNat

def lowPair (w : UInt16) : Nat := (w &&& 0xFF).toNat

def lowTriple (w : UInt16) : Nat := (w &&& 0xFFF).toNat

/-! ## Decoding -/

/-- The family `0`: the two system words. -/
def decodeSystem (w : UInt16) : Instruction :=
  if w = 0x00E0 then clearScreen else if w = 0x00EE then ret else noOperation

/-- The family `8`: register arithmetic, by the last digit. -/
def decodeArithmetic (x y : Register) (n : Nat) : Instruction :=
  match n with
  | 0x0 => loadRegister x y
  | 0x1 => bitOr x y
  | 0x2 => bitAnd x y
  | 0x3 => bitXor x y
  | 0x4 => addRegister x y
  | 0x5 => subtract x y
  | 0x6 => shiftRight x
  | 0x7 => subtractReversed x y
  | 0xE => shiftLeft x
  | _ => noOperation

/-- The family `E`: the keypad, by the last two digits. -/
def decodeKey (x : Register) (kk : Nat) : Instruction :=
  match kk with
  | 0x9E => skipKeyPressed x
  | 0xA1 => skipKeyNotPressed x
  | _ => noOperation

/-- The family `F`: timers, keys and memory, by the last two digits. -/
def decodeTransfer (x : Register) (kk : Nat) : Instruction :=
  match kk with
  | 0x07 => loadDelayTimer x
  | 0x0A => waitForKey x
  | 0x15 => setDelayTimer x
  | 0x18 => setSoundTimer x
  | 0x1E => addIndex x
  | 0x29 => loadSprite x
  | 0x33 => storeDigits x
  | 0x55 => storeRegisters x
  | 0x65 => loadRegisters x
  | _ => noOperation

/-- The instruction a 16-bit word stands for. -/
def decodeWord (w : UInt16) : Instruction :=
  match family w with
  | 0x0 => decodeSystem w
  | 0x1 => jump (lowTriple w)
  | 0x2 => call (lowTriple w)
  | 0x3 => skipEqualByte (fieldX w) (lowPair w)
  | 0x4 => skipNotEqualByte (fieldX w) (lowPair w)
  | 0x5 => skipEqualRegister (fieldX w) (fieldY w)
  | 0x6 => loadByte (fieldX w) (lowPair w)
  | 0x7 => addByte (fieldX w) (lowPair w)
  | 0x8 => decodeArithmetic (fieldX w) (fieldY w) (lowDigit w)
  | 0x9 => skipNotEqualRegister (fieldX w) (fieldY w)
  | 0xA => loadIndex (lowTriple w)
  | 0xB => jumpOffset (lowTriple w)
  | 0xC => random (fieldX w) (lowPair w)
  | 0xD => draw (fieldX w) (fieldY w) (lowDigit w)
  | 0xE => decodeKey (fieldX w) (lowPair w)
  | _ => decodeTransfer (fieldX w) (lowPair w)

/-- The instruction an integer stands for, by its low sixteen bits. -/
def decode (word : Int) : Instruction := decodeWord (UInt16.ofInt word)

/-! ## Encoding -/

/-- A word from its leading digit and the value of its last three. -/
def word (leading : Nat) (rest : Int) : UInt16 := UInt16.ofInt (leading * 0x1000 + rest)

/-- The word of an instruction; the one that does nothing has the zero word. -/
def encode : Instruction → UInt16
  | clearScreen => 0x00E0
  | ret => 0x00EE
  | noOperation => 0x0000
  | jump a => word 0x1 a
  | call a => word 0x2 a
  | skipEqualByte x k => word 0x3 (x.val * 0x100 + k)
  | skipNotEqualByte x k => word 0x4 (x.val * 0x100 + k)
  | skipEqualRegister x y => word 0x5 (x.val * 0x100 + y.val * 0x10)
  | loadByte x k => word 0x6 (x.val * 0x100 + k)
  | addByte x k => word 0x7 (x.val * 0x100 + k)
  | loadRegister x y => word 0x8 (x.val * 0x100 + y.val * 0x10)
  | bitOr x y => word 0x8 (x.val * 0x100 + y.val * 0x10 + 0x1)
  | bitAnd x y => word 0x8 (x.val * 0x100 + y.val * 0x10 + 0x2)
  | bitXor x y => word 0x8 (x.val * 0x100 + y.val * 0x10 + 0x3)
  | addRegister x y => word 0x8 (x.val * 0x100 + y.val * 0x10 + 0x4)
  | subtract x y => word 0x8 (x.val * 0x100 + y.val * 0x10 + 0x5)
  | shiftRight x => word 0x8 (x.val * 0x100 + 0x6)
  | subtractReversed x y => word 0x8 (x.val * 0x100 + y.val * 0x10 + 0x7)
  | shiftLeft x => word 0x8 (x.val * 0x100 + 0xE)
  | skipNotEqualRegister x y => word 0x9 (x.val * 0x100 + y.val * 0x10)
  | loadIndex a => word 0xA a
  | jumpOffset a => word 0xB a
  | random x k => word 0xC (x.val * 0x100 + k)
  | draw x y n => word 0xD (x.val * 0x100 + y.val * 0x10 + n)
  | skipKeyPressed x => word 0xE (x.val * 0x100 + 0x9E)
  | skipKeyNotPressed x => word 0xE (x.val * 0x100 + 0xA1)
  | loadDelayTimer x => word 0xF (x.val * 0x100 + 0x07)
  | waitForKey x => word 0xF (x.val * 0x100 + 0x0A)
  | setDelayTimer x => word 0xF (x.val * 0x100 + 0x15)
  | setSoundTimer x => word 0xF (x.val * 0x100 + 0x18)
  | addIndex x => word 0xF (x.val * 0x100 + 0x1E)
  | loadSprite x => word 0xF (x.val * 0x100 + 0x29)
  | storeDigits x => word 0xF (x.val * 0x100 + 0x33)
  | storeRegisters x => word 0xF (x.val * 0x100 + 0x55)
  | loadRegisters x => word 0xF (x.val * 0x100 + 0x65)

end Chip8.Instruction
