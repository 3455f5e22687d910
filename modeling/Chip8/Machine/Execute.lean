import Chip8.Instruction.Decode
import Chip8.Instruction.Operands
import Chip8.Machine.Stack

/-!
# Execution

**One instruction** (`execute`). A blocking instruction with no key held leaves the machine as
it is and reports that it waits. A push to a full stack or a pop from an empty one is a fault.
Otherwise the instruction takes effect (`perform`) and, unless it sets the program counter
itself, the counter moves past it.

**Order of writes.** Results are computed from the registers as they were; the flag is written
first and the target last, so a target that is the flag register keeps the result.

**One cycle** (`tick`). The instruction at the program counter is executed.

**Hand-built instructions** (`issue`). Their operands may exceed the machine's arithmetic, which
is refused after waiting and the stack have been looked at.
-/

namespace Chip8

/-- What became of a cycle. -/
inductive Status where
  | running
  | waiting
deriving Repr, DecidableEq

def Status.name : Status → String
  | running => "running"
  | waiting => "waiting"

namespace Machine

/-! ## Effects -/

def flag (b : Bool) : UInt8 := if b then 1 else 0

/-- Writes the flag register, then the target. -/
def setWithFlag (m : Machine) (x : Register) (b : Bool) (result : UInt8) : Machine :=
  (m.setRegister flagRegister (flag b)).setRegister x result

/-- Moves past the next instruction if a condition holds. -/
def skipIf (m : Machine) (condition : Bool) : Machine :=
  if condition then { m with pc := m.pc + 2 } else m

/-- The key of this number is held; there are sixteen. -/
def keyHeld (m : Machine) (key : UInt8) : Bool :=
  key < 16 && (m.keys >>> key.toUInt16) &&& 1 == 1

def lowestKey? (m : Machine) : Option Register :=
  (List.finRange 16).find? fun k => (m.keys >>> UInt16.ofNat k) &&& 1 == 1

def indexAddress (m : Machine) : Int32 := widenWord m.index

/-- The registers up to one of them. -/
def registersTo (x : Register) : List Register := (List.finRange 16).filter (· ≤ x)

/-- Draws the rows of a sprite from the index on, and tells whether a lit pixel went out. -/
def drawSprite (m : Machine) (x y : Int32) (height : Nat) : Screen × Bool :=
  (List.range height).foldl
    (fun (screen, hit) row =>
      let offset := Int32.ofNat row
      let (screen, rowHit) :=
        screen.drawRow (widen (m.load (m.indexAddress + offset))) x (y + offset)
      (screen, hit || rowHit))
    (m.screen, false)

/-- Draws a sprite at the coordinates in two registers; the flag says whether a lit pixel went
out. -/
def draw (m : Machine) (x y : Register) (height : Int) : Machine :=
  let (screen, hit) :=
    m.drawSprite (widen (m.register x)) (widen (m.register y)) height.toNat
  { m with screen }.setRegister flagRegister (flag hit)

/-- Stores the decimal digits of a register from the index on. -/
def storeDigits (m : Machine) (x : Register) : Machine :=
  let d := Digits.ofInt (m.register x).toNat
  ((m.store m.indexAddress (UInt8.ofNat d.hundreds)).store (m.indexAddress + 1)
    (UInt8.ofNat d.tens)).store (m.indexAddress + 2) (UInt8.ofNat d.ones)

/-- Moves the index past a block of registers. -/
def indexPast (m : Machine) (x : Register) : Machine :=
  { m with index := m.index + UInt16.ofNat x + 1 }

/-- Stores the registers up to `x` from the index on and moves the index past them. -/
def storeRegisters (m : Machine) (x : Register) : Machine :=
  ((registersTo x).foldl
    (fun n r => n.store (m.indexAddress + Int32.ofNat r) (m.register r)) m).indexPast x

/-- Loads the registers up to `x` from the index on and moves the index past them. -/
def loadRegisters (m : Machine) (x : Register) : Machine :=
  ((registersTo x).foldl
    (fun n r => n.setRegister r (m.load (m.indexAddress + Int32.ofNat r))) m).indexPast x

/-- Draws a random byte, masks it, and moves the random stream on. -/
def drawRandom (m : Machine) (x : Register) (mask : UInt8) : Machine :=
  { m.setRegister x (m.random.byte &&& mask) with random := m.random.next }

/-- Pushes the address after this instruction and continues elsewhere. -/
def call (m : Machine) (address : Int32) : Machine := (m.push (m.pc + 2)).jump address

/-- Continues at the address popped. -/
def ret (m : Machine) : Machine :=
  let (m, address) := m.pop
  m.jump (widenWord address)

/-- The effect of an instruction, the move of the program counter past it left out. -/
def perform (m : Machine) : Instruction → Machine
  | .clearScreen => { m with screen := Screen.dark }
  | .ret => m.ret
  | .noOperation => m
  | .jump a => m.jump (Int32.ofInt a)
  | .call a => m.call (Int32.ofInt a)
  | .jumpOffset a => m.jump (Int32.ofInt (a % 4096) + widen (m.register firstRegister))
  | .skipEqualByte x k => m.skipIf ((m.register x).toNat = k)
  | .skipNotEqualByte x k => m.skipIf ((m.register x).toNat ≠ k)
  | .skipEqualRegister x y => m.skipIf (m.register x == m.register y)
  | .skipNotEqualRegister x y => m.skipIf (m.register x != m.register y)
  | .skipKeyPressed x => m.skipIf (m.keyHeld (m.register x))
  | .skipKeyNotPressed x => m.skipIf !m.keyHeld (m.register x)
  | .loadByte x k => m.setRegister x (UInt8.ofInt k)
  | .addByte x k => m.setRegister x (m.register x + UInt8.ofInt k)
  | .loadIndex a => { m with index := UInt16.ofInt a }
  | .random x k => m.drawRandom x (UInt8.ofInt k)
  | .loadRegister x y => m.setRegister x (m.register y)
  | .bitOr x y => m.setRegister x (m.register x ||| m.register y)
  | .bitAnd x y => m.setRegister x (m.register x &&& m.register y)
  | .bitXor x y => m.setRegister x (m.register x ^^^ m.register y)
  | .addRegister x y =>
    let sum := m.register x + m.register y
    m.setWithFlag x (sum < m.register x) sum
  | .subtract x y =>
    m.setWithFlag x (m.register y < m.register x) (m.register x - m.register y)
  | .shiftRight x => m.setWithFlag x (m.register x &&& 1 == 1) (m.register x >>> 1)
  | .subtractReversed x y =>
    m.setWithFlag x (m.register x < m.register y) (m.register y - m.register x)
  | .shiftLeft x => m.setWithFlag x (m.register x &&& 0x80 == 0x80) (m.register x <<< 1)
  | .draw x y height => m.draw x y height
  | .loadDelayTimer x => m.setRegister x m.delay
  | .waitForKey x =>
    match m.lowestKey? with
    | some k => m.setRegister x (UInt8.ofNat k)
    | none => m
  | .setDelayTimer x => { m with delay := m.register x }
  | .setSoundTimer x => { m with sound := m.register x }
  | .addIndex x => { m with index := m.index + (m.register x).toUInt16 }
  | .loadSprite x => { m with index := UInt16.ofInt (Font.address (m.register x).toNat) }
  | .storeDigits x => m.storeDigits x
  | .storeRegisters x => m.storeRegisters x
  | .loadRegisters x => m.loadRegisters x

/-! ## Cycles -/

/-- An instruction takes effect, and the program counter moves past it unless set by it. -/
def complete (m : Machine) (i : Instruction) : Machine :=
  if i.transfersControl then m.perform i else (m.perform i).advance 2

/-- The stack has room for an instruction; one that does not move it needs none. -/
def stackReady (m : Machine) (i : Instruction) : Except StackFault Unit :=
  if i.stackChange = 0 then .ok () else m.checkStack i.stackChange

/-- Executes an instruction. -/
def execute (m : Machine) (i : Instruction) : Except StackFault (Machine × Status) :=
  if i.blocking ∧ m.keys = 0 then .ok (m, .waiting)
  else (m.stackReady i).map fun _ => (m.complete i, .running)

/-- Executes an instruction with any operands. -/
def issue (m : Machine) (i : Instruction) : Except Fault (Machine × Status) :=
  match m.execute i with
  | .error fault => .error (.stack fault)
  | .ok result => if i.fits then .ok result else .error .outOfRange

/-- The instruction at the program counter. -/
def fetch (m : Machine) : Instruction := Instruction.decodeWord (m.word (widenWord m.pc))

/-- Executes the instruction at the program counter. -/
def tick (m : Machine) : Except StackFault (Machine × Status) := m.execute m.fetch

end Machine

end Chip8
