import Chip8.Instruction.Printer
import Chip8.Machine.Basic

/-!
# The register dump

One line with the registers, the index, the program counter, the stack pointer and the timers,
in hexadecimal.
-/

namespace Chip8.Machine

/-- A name, a colon and a hexadecimal numeral. -/
def dumpItem (name : String) (width value : Nat) : String :=
  name ++ ":" ++ Numeral.hex width value

def dump (m : Machine) : String :=
  let registers := (List.finRange 16).map fun x : Register =>
    dumpItem (Instruction.registerName x.val) 2 (m.register x).toNat
  " ".intercalate <| registers ++
    [dumpItem "I" 4 m.index.toNat, dumpItem "PC" 3 m.pc.toNat, dumpItem "SP" 2 m.sp.toNat,
      dumpItem "DT" 2 m.delay.toNat, dumpItem "ST" 2 m.sound.toNat]

end Chip8.Machine
