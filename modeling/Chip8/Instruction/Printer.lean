import Chip8.Fault
import Chip8.Instruction.Basic

/-!
# Assembly text

An instruction is written as a mnemonic and its items, separated by commas.

**Items** (`Instruction.Item`). An item is a fixed name or an operand. Registers are `V0` to
`VF`, bytes and addresses hexadecimal with at least two and three digits, heights decimal. A
height with too many digits has no text.

**Names** (`Instruction.form`). Every form has a name of its own, and mnemonics are shared.
-/

namespace Chip8.Instruction

/-! ## Items -/

/-- The operands an instruction may have. -/
inductive Operand where
  | x
  | y
  | byte
  | address
  | height
deriving Repr, DecidableEq

def Operand.name : Operand → String
  | x => "x"
  | y => "y"
  | byte => "byte"
  | address => "address"
  | height => "height"

/-- What stands between the commas: a fixed name, or an operand with its value. -/
inductive Item where
  | fixed (text : String)
  | operand (which : Operand) (value : Int)
deriving Repr, DecidableEq

def Item.register (which : Operand) (r : Register) : Item := operand which r.val

def registerName (number : Int) : String := "V" ++ Numeral.hex 1 number

def Item.text : Item → Except Fault String
  | fixed s => .ok s
  | operand .x v => .ok (registerName v)
  | operand .y v => .ok (registerName v)
  | operand .byte v => .ok ("0x" ++ Numeral.hex 2 v)
  | operand .address v => .ok ("0x" ++ Numeral.hex 3 v)
  | operand .height v => decimalText v

/-- The place of an item in the pattern of its form. -/
def Item.pattern : Item → String
  | fixed s => s
  | operand .byte _ => "0x\x7bbyte:02X\x7d"
  | operand .address _ => "0x\x7baddress:03X\x7d"
  | operand o _ => "\x7b" ++ o.name ++ "\x7d"

def Item.operand? : Item → Option (Operand × Int)
  | fixed _ => none
  | operand o v => some (o, v)

/-! ## Instructions -/

def mnemonic : Instruction → String
  | clearScreen => "CLS"
  | ret => "RET"
  | noOperation => "NOP"
  | jump _ | jumpOffset _ => "JP"
  | call _ => "CALL"
  | skipEqualByte _ _ | skipEqualRegister _ _ => "SE"
  | skipNotEqualByte _ _ | skipNotEqualRegister _ _ => "SNE"
  | skipKeyPressed _ => "SKP"
  | skipKeyNotPressed _ => "SKNP"
  | addByte _ _ | addRegister _ _ | addIndex _ => "ADD"
  | random _ _ => "RND"
  | bitOr _ _ => "OR"
  | bitAnd _ _ => "AND"
  | bitXor _ _ => "XOR"
  | subtract _ _ => "SUB"
  | shiftRight _ => "SHR"
  | subtractReversed _ _ => "SUBN"
  | shiftLeft _ => "SHL"
  | draw _ _ _ => "DRW"
  | loadByte _ _ | loadIndex _ | loadRegister _ _ | loadDelayTimer _ | waitForKey _
  | setDelayTimer _ | setSoundTimer _ | loadSprite _ | storeDigits _ | storeRegisters _
  | loadRegisters _ => "LD"

/-- The items after the mnemonic. -/
def items : Instruction → List Item
  | clearScreen | ret | noOperation => []
  | jump a | call a => [.operand .address a]
  | jumpOffset a => [.fixed "V0", .operand .address a]
  | skipEqualByte x k | skipNotEqualByte x k | loadByte x k | addByte x k | random x k =>
    [.register .x x, .operand .byte k]
  | skipEqualRegister x y | skipNotEqualRegister x y | loadRegister x y | bitOr x y
  | bitAnd x y | bitXor x y | addRegister x y | subtract x y | subtractReversed x y =>
    [.register .x x, .register .y y]
  | skipKeyPressed x | skipKeyNotPressed x | shiftRight x | shiftLeft x => [.register .x x]
  | loadIndex a => [.fixed "I", .operand .address a]
  | draw x y n => [.register .x x, .register .y y, .operand .height n]
  | loadDelayTimer x => [.register .x x, .fixed "DT"]
  | waitForKey x => [.register .x x, .fixed "K"]
  | setDelayTimer x => [.fixed "DT", .register .x x]
  | setSoundTimer x => [.fixed "ST", .register .x x]
  | addIndex x => [.fixed "I", .register .x x]
  | loadSprite x => [.fixed "F", .register .x x]
  | storeDigits x => [.fixed "B", .register .x x]
  | storeRegisters x => [.fixed "[I]", .register .x x]
  | loadRegisters x => [.register .x x, .fixed "[I]"]

def commaSeparated (texts : List String) : String := ", ".intercalate texts

/-- The line of a mnemonic and the texts of its items. -/
def line (mnemonic : String) : List String → String
  | [] => mnemonic
  | texts => mnemonic ++ " " ++ commaSeparated texts

/-- The assembly text, if all items have one. -/
def text (i : Instruction) : Except Fault String := (i.items.mapM Item.text).map (line i.mnemonic)

/-! ## Forms -/

/-- The name of an instruction's form. -/
def form : Instruction → String
  | clearScreen => "ClearScreen"
  | ret => "Return"
  | noOperation => "NoOperation"
  | jump _ => "Jump"
  | call _ => "Call"
  | jumpOffset _ => "JumpOffset"
  | skipEqualByte _ _ => "SkipEqualByte"
  | skipNotEqualByte _ _ => "SkipNotEqualByte"
  | skipEqualRegister _ _ => "SkipEqualRegister"
  | skipNotEqualRegister _ _ => "SkipNotEqualRegister"
  | skipKeyPressed _ => "SkipKeyPressed"
  | skipKeyNotPressed _ => "SkipKeyNotPressed"
  | loadByte _ _ => "LoadByte"
  | addByte _ _ => "AddByte"
  | loadIndex _ => "LoadIndex"
  | random _ _ => "Random"
  | loadRegister _ _ => "LoadRegister"
  | bitOr _ _ => "Or"
  | bitAnd _ _ => "And"
  | bitXor _ _ => "Xor"
  | addRegister _ _ => "AddRegister"
  | subtract _ _ => "Subtract"
  | shiftRight _ => "ShiftRight"
  | subtractReversed _ _ => "SubtractReversed"
  | shiftLeft _ => "ShiftLeft"
  | draw _ _ _ => "Draw"
  | loadDelayTimer _ => "LoadDelayTimer"
  | waitForKey _ => "WaitForKey"
  | setDelayTimer _ => "SetDelayTimer"
  | setSoundTimer _ => "SetSoundTimer"
  | addIndex _ => "AddIndex"
  | loadSprite _ => "LoadSprite"
  | storeDigits _ => "StoreBCD"
  | storeRegisters _ => "StoreRegisters"
  | loadRegisters _ => "LoadRegisters"

def operands (i : Instruction) : List (Operand × Int) := i.items.filterMap Item.operand?

/-- The pattern of an instruction's form: its items with the values left out. -/
def pattern (i : Instruction) : String := commaSeparated (i.items.map Item.pattern)

/-- One instruction of each form, all operands zero. -/
def forms : List Instruction :=
  let v : Register := firstRegister
  [clearScreen, ret, noOperation, jump 0, call 0, jumpOffset 0, skipEqualByte v 0,
    skipNotEqualByte v 0, skipEqualRegister v v, skipNotEqualRegister v v, skipKeyPressed v,
    skipKeyNotPressed v, loadByte v 0, addByte v 0, loadIndex 0, random v 0, loadRegister v v,
    bitOr v v, bitAnd v v, bitXor v v, addRegister v v, subtract v v, shiftRight v,
    subtractReversed v v, shiftLeft v, draw v v 0, loadDelayTimer v, waitForKey v,
    setDelayTimer v, setSoundTimer v, addIndex v, loadSprite v, storeDigits v,
    storeRegisters v, loadRegisters v]

end Chip8.Instruction
