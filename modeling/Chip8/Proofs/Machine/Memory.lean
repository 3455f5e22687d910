import Chip8.Machine.Execute
import Chip8.Proofs.Words

/-!
# Memory by its addresses

Memory has 4096 cells, and an address is any 32-bit integer.

**One cell for each remainder** (`masked_eq_wrapped`). Bytes are found by the low twelve bits of an
address, words by its remainder. Memory's length divides the range of the machine's integers, so
either way the cell is that of the exact address, below zero and past the largest integer too.

**Read over write** (`load_store`). A byte is read back at all addresses of the cell it was stored
in, and the other addresses read as before.

**Words** (`word_eq_loads`). A word is the bytes at an address and at the next one.

**Program counter** (`word_jump`). A target is reduced when the counter is set, and what a cycle
then looks up, reducing once more, is the word at the target.
-/

namespace Chip8

/-! ## Cells -/

theorem masked_eq_wrapped (a : Int32) : masked a = wrapped a :=
  Fin.ext (Int.ofNat_inj.1 ((masked_val a).trans (wrapped_val a).symm))

theorem masked_eq_iff {a b : Int32} : masked a = masked b ↔ a.toInt ≡ b.toInt [ZMOD 4096] := by
  rw [Int.ModEq, ← masked_val, ← masked_val, Int.ofNat_inj, Fin.ext_iff]

/-- The next address may wrap from the largest integer to the smallest, and its cell does not
show it. -/
theorem masked_add_one (a : Int32) : ((masked (a + 1)).val : Int) = (a.toInt + 1) % 4096 := by
  rw [masked_val]
  exact toInt_add_emod a 1 (by decide)

namespace Machine

/-! ## Bytes -/

/-- **A read after a write, both at any address.** -/
theorem load_store (m : Machine) (a b : Int32) (v : UInt8) :
    (m.store a v).load b = if a.toInt ≡ b.toInt [ZMOD 4096] then v else m.load b := by
  simp only [load, store, Fin.getElem_fin, Vector.getElem_set, ← Fin.ext_iff, masked_eq_iff]

theorem load_congr (m : Machine) {a b : Int32} (h : masked a = masked b) : m.load a = m.load b := by
  simp only [load, h]

/-! ## Words -/

theorem word_eq_loads (m : Machine) (a : Int32) :
    m.word a = bytesToWord (m.load a) (m.load (a + 1)) := by
  simp only [word, load, masked_eq_wrapped]

/-- The word at an address is the one at its remainder, and so is the second byte. -/
theorem word_congr (m : Machine) {a b : Int32} (h : a.toInt % 4096 = b.toInt % 4096) :
    m.word a = m.word b := by
  have hnext : masked (a + 1) = masked (b + 1) := by
    have ha := masked_add_one a
    have hb := masked_add_one b
    apply Fin.ext
    omega
  rw [word_eq_loads, word_eq_loads, m.load_congr (masked_eq_iff.2 h), m.load_congr hnext]

/-! ## Program counter -/

/-- **The word that a cycle looks up after a jump.** -/
theorem word_jump (m : Machine) (a : Int32) :
    (m.jump a).word (widenWord (m.jump a).pc) = m.word a := by
  show m.word (widenWord (m.jump a).pc) = m.word a
  refine m.word_congr ?_
  rw [toInt_widenWord, toNat_jump_pc, Int.emod_emod]

/-- **Both ways of wrapping agree.** A stored integer is read back as its low byte at every address
with the remainder it was stored at, and all other addresses read as before. The word at an address
is the bytes at it and at the next one, which is counted on exactly although the machine's sum
wraps. Jumps and moves reduce the counter to the remainder of the exact target, and a cycle looks up
the word there. -/
theorem addresses_agree (m : Machine) :
    (∀ a b v : Int32, (((m.store a (lowByte v)).load b).toNat : Int) =
      if a.toInt ≡ b.toInt [ZMOD 4096] then v.toInt % 256 else (m.load b).toNat) ∧
    (∀ a : Int32, masked a = wrapped a ∧ ((masked a).val : Int) = a.toInt % 4096 ∧
      ((masked (a + 1)).val : Int) = (a.toInt + 1) % 4096 ∧
      (m.word a).toNat = 256 * (m.load a).toNat + (m.load (a + 1)).toNat) ∧
    (∀ a : Int32, ((m.jump a).pc.toNat : Int) = a.toInt % 4096 ∧
      (m.jump a).word (widenWord (m.jump a).pc) = m.word a ∧
      (m.jump a).fetch = Instruction.decodeWord (m.word a)) ∧
    ∀ amount : Int32, ((m.advance amount).pc.toNat : Int) = (m.pc.toNat + amount.toInt) % 4096 ∧
      (m.advance amount).word (widenWord (m.advance amount).pc) =
        m.word (widenWord m.pc + amount) := by
  refine ⟨fun a b v => ?_, fun a => ⟨masked_eq_wrapped a, masked_val a, masked_add_one a, ?_⟩,
    fun a => ⟨m.toNat_jump_pc a, m.word_jump a, congrArg Instruction.decodeWord (m.word_jump a)⟩,
    fun amount => ⟨m.toNat_advance amount, m.word_jump _⟩⟩
  · rw [load_store]
    split
    · exact toNat_lowByte v
    · rfl
  · rw [word_eq_loads, toNat_bytesToWord, Nat.mul_comm]

example : wrapped 2147483647 = 4095 ∧ wrapped (2147483647 + 1) = 0 ∧ masked (-1) = 4095 := by decide

end Machine

end Chip8
