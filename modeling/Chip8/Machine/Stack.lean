import Chip8.Fault
import Chip8.Machine.Basic

/-!
# The stack

Return addresses as pairs of bytes, the high one first. The stack pointer is the number of
bytes in use.

**Checked** (`push?`, `pop?`). A move of the pointer below zero or above 64 is a fault
(`checkStack`), and then nothing changes.

**Unchecked** (`push`, `pop`). These follow the index rule of byte cells, and the pointer wraps
in eight bits; after a successful check neither ever shows.

**The list** (`returnAddresses`). The addresses in use, oldest first.
-/

namespace Chip8.Machine

def stackSize : Nat := 64

/-- Whether the stack pointer may move by some bytes. -/
def checkStack (m : Machine) (change : Int) : Except StackFault Unit :=
  if stackSize < m.sp.toNat + change then .error (.overflow m.sp)
  else if m.sp.toNat + change < 0 then .error (.underflow m.sp)
  else .ok ()

def push (m : Machine) (value : UInt16) : Machine :=
  let sp : Int := m.sp.toNat
  { m with
    stack := (m.stack.write sp (value >>> 8).toUInt8).write (sp + 1) value.toUInt8
    sp := m.sp + 2 }

def pop (m : Machine) : Machine × UInt16 :=
  let sp : Int := m.sp.toNat - 2
  ({ m with sp := m.sp - 2 }, bytesToWord (m.stack.read sp) (m.stack.read (sp + 1)))

/-- Pushes a word unless the stack is full. -/
def push? (m : Machine) (value : UInt16) : Except StackFault Machine :=
  (m.checkStack 2).map fun _ => m.push value

/-- Pops a word unless the stack is empty. -/
def pop? (m : Machine) : Except StackFault (Machine × UInt16) :=
  (m.checkStack (-2)).map fun _ => m.pop

/-- The return addresses, oldest first. -/
def returnAddresses (m : Machine) : List UInt16 :=
  (List.range (m.sp.toNat / 2)).map fun i =>
    bytesToWord (m.stack.read (2 * i : Nat)) (m.stack.read (2 * i + 1 : Nat))

end Chip8.Machine
