import Chip8.Machine.Program
import Chip8.Proofs.Cells

/-!
# The machine at its first instruction

Power on with a program loaded leaves nothing to chance: below the program the font and zeros, the
program, zeros again, and zero in everything but the program counter (`started`). A reset followed
by a load gives this machine (`reset_loadProgram`), so of the machine before only the random key
is left.
-/

namespace Chip8.Machine

/-- Memory with the font at its start, a program at the first instruction, and zeros. -/
def startMemory (program : Program) : Cells 4096 :=
  Vector.ofFn fun i =>
    if h : 0x200 ≤ i.val ∧ i.val < 0x200 + program.length then program[i.val - 0x200]
    else Font.glyphs.getD i 0

/-- The machine before the first instruction of a program. -/
def started (random : RandomKey) (program : Program) : Machine :=
  { blank random with pc := 0x200, memory := startMemory program }

theorem overwrite_font (i : Nat) (h : i < 4096) :
    ((Cells.zero 4096).overwrite Font.start Font.glyphs)[i] = Font.glyphs.getD i 0 := by
  rw [Cells.getElem_overwrite _ _ _ h]
  by_cases hi : i < Font.glyphs.length
  · rw [dif_pos ⟨Nat.zero_le i, by rw [Font.start, Nat.zero_add]; exact hi⟩,
      List.getD_eq_getElem _ _ hi]
    rfl
  · rw [dif_neg (by rw [Font.start]; omega), List.getD_eq_default _ _ (by omega), Cells.zero,
      Vector.getElem_replicate]

theorem powerOn_memory (random : RandomKey) :
    (powerOn random).memory = (Cells.zero 4096).overwrite Font.start Font.glyphs := rfl

theorem powerOn_memory_overwrite (random : RandomKey) (program : Program) :
    (powerOn random).memory.overwrite programStart program = startMemory program := by
  apply Vector.ext
  intro i hi
  rw [Cells.getElem_overwrite _ _ _ hi, startMemory, Vector.getElem_ofFn, powerOn_memory]
  by_cases h : programStart ≤ i ∧ i < programStart + program.length
  · rw [dif_pos h, dif_pos (by exact h)]
    rfl
  · rw [dif_neg h, dif_neg (by exact h), overwrite_font i hi]

theorem loadProgram_eq_ok {m : Machine} {program : Program}
    (h : program.length ≤ longestProgram) :
    m.loadProgram program = .ok { m with memory := m.memory.overwrite programStart program } :=
  if_neg (Nat.not_lt.2 h)

theorem length_le_of_loadProgram {m n : Machine} {program : Program}
    (h : m.loadProgram program = .ok n) : program.length ≤ longestProgram := by
  by_contra hlong
  rw [loadProgram, if_pos (Nat.not_le.1 hlong)] at h
  cases h

/-- **After a reset and a load, only the random key is left of the machine before.** -/
theorem reset_loadProgram (m : Machine) {program : Program}
    (h : program.length ≤ longestProgram) :
    m.reset.loadProgram program = .ok (started m.random program) := by
  rw [loadProgram_eq_ok h, reset, powerOn_memory_overwrite]
  rfl

end Chip8.Machine
