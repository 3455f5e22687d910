import Chip8.Fault
import Chip8.Instruction.Printer

/-!
# Instructions from their operands

An instruction may be named by its form and given its operands by name.

**Refusals** (`Instruction.ofOperands?`). A missing or unknown operand is refused first, then
a register number outside 0 to 15, that of `x` before that of `y`.

**Fitting** (`Instruction.fits`). Which hand-built operands the machine's arithmetic takes.
-/

namespace Chip8.Instruction

def register? (number : Int) : Except Fault Register :=
  if h : 0 ≤ number ∧ number < 16 then .ok ⟨number.toNat, by omega⟩
  else .error (.noSuchRegister number)

/-- An instruction of the same form with other operands. -/
def withOperands (i : Instruction) (value : Operand → Int) : Except Fault Instruction :=
  let x := register? (value .x)
  let y := register? (value .y)
  match i with
  | clearScreen => .ok clearScreen
  | ret => .ok ret
  | noOperation => .ok noOperation
  | jump _ => .ok (jump (value .address))
  | call _ => .ok (call (value .address))
  | jumpOffset _ => .ok (jumpOffset (value .address))
  | skipEqualByte _ _ => return skipEqualByte (← x) (value .byte)
  | skipNotEqualByte _ _ => return skipNotEqualByte (← x) (value .byte)
  | skipEqualRegister _ _ => return skipEqualRegister (← x) (← y)
  | skipNotEqualRegister _ _ => return skipNotEqualRegister (← x) (← y)
  | skipKeyPressed _ => return skipKeyPressed (← x)
  | skipKeyNotPressed _ => return skipKeyNotPressed (← x)
  | loadByte _ _ => return loadByte (← x) (value .byte)
  | addByte _ _ => return addByte (← x) (value .byte)
  | loadIndex _ => .ok (loadIndex (value .address))
  | random _ _ => return random (← x) (value .byte)
  | loadRegister _ _ => return loadRegister (← x) (← y)
  | bitOr _ _ => return bitOr (← x) (← y)
  | bitAnd _ _ => return bitAnd (← x) (← y)
  | bitXor _ _ => return bitXor (← x) (← y)
  | addRegister _ _ => return addRegister (← x) (← y)
  | subtract _ _ => return subtract (← x) (← y)
  | shiftRight _ => return shiftRight (← x)
  | subtractReversed _ _ => return subtractReversed (← x) (← y)
  | shiftLeft _ => return shiftLeft (← x)
  | draw _ _ _ => return draw (← x) (← y) (value .height)
  | loadDelayTimer _ => return loadDelayTimer (← x)
  | waitForKey _ => return waitForKey (← x)
  | setDelayTimer _ => return setDelayTimer (← x)
  | setSoundTimer _ => return setSoundTimer (← x)
  | addIndex _ => return addIndex (← x)
  | loadSprite _ => return loadSprite (← x)
  | storeDigits _ => return storeDigits (← x)
  | storeRegisters _ => return storeRegisters (← x)
  | loadRegisters _ => return loadRegisters (← x)

/-- The instruction of a form with the given operands. -/
def ofOperands? (name : String) (given : List (String × Int)) : Except Fault Instruction :=
  match forms.find? (·.form = name) with
  | none => .error .operands
  | some i =>
    let expected := i.operands.map (·.1.name)
    if expected.all (given.lookup · |>.isSome) && given.all (expected.contains ·.1) then
      i.withOperands fun o => (given.lookup o.name).getD 0
    else .error .operands

/-- The operands are within what the machine's arithmetic takes. -/
def fits : Instruction → Bool
  | jump n | call n | loadByte _ n | addByte _ n | random _ n =>
    -2147483648 ≤ n && n ≤ 2147483647
  | loadIndex n => 0 ≤ n && n ≤ 65535
  | _ => true

end Chip8.Instruction
