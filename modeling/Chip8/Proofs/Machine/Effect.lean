import Chip8.Machine.Execute
import Chip8.Proofs.Cells

/-!
# What an instruction does

**Effects.** The loops of the two block transfers write one store each (`foldl_store`,
`foldl_setRegister`), so every effect is a record update of the machine it starts from, and what
it leaves alone is read off by cases on the instruction.

**Executing.** An instruction that does not fault waits or completes (`execute_cases`). Calls and
returns succeed if the stack has room for their move (`execute_call`, `execute_ret`); all other
instructions always do (`execute_of_stackChange_eq_zero`), and leave the stack and its pointer
alone (`complete_stack`).
-/

namespace Chip8.Machine

/-! ## Registers -/

theorem register_setRegister (m : Machine) (x y : Register) (b : UInt8) :
    (m.setRegister x b).register y = if x = y then b else m.register y := by
  simp only [register, setRegister, Fin.getElem_fin, Vector.getElem_set, Fin.ext_iff]

theorem setRegister_register (m : Machine) (x : Register) :
    m.setRegister x (m.register x) = m := by
  simp only [register, setRegister, Fin.getElem_fin, Vector.set_getElem_self]

/-! ## Jumps -/

theorem toNat_jump_ofInt_pc (m : Machine) (a : Nat) :
    (m.jump (Int32.ofInt a)).pc.toNat = a % 4096 := by
  have h := toNat_jump_pc m (Int32.ofNat a)
  have hofNat := toInt_ofNat_emod a (k := 4096) (by decide)
  show (m.jump (Int32.ofNat a)).pc.toNat = _
  omega

theorem toNat_jumpOffset_pc (m : Machine) (a : Nat) :
    (m.perform (.jumpOffset a)).pc.toNat = (a + (m.register firstRegister).toNat) % 4096 := by
  have h := toNat_jump_pc m (Int32.ofNat (a % 4096) + widen (m.register firstRegister))
  have hadd := toInt_add_emod (Int32.ofNat (a % 4096)) (widen (m.register firstRegister))
    (k := 4096) (by decide)
  have hofNat := toInt_ofNat_emod (a % 4096) (k := 4096) (by decide)
  rw [toInt_widen] at hadd
  show (m.jump (Int32.ofNat (a % 4096) + _)).pc.toNat = _
  omega

theorem toNat_ret_pc (m : Machine) : m.ret.pc.toNat = m.pop.2.toNat % 4096 := by
  have h := toNat_jump_pc m.pop.1 (widenWord m.pop.2)
  rw [toInt_widenWord] at h
  exact_mod_cast h

/-! ## Addresses from the index on -/

/-- Memory's length divides a word's range, so the machine's words lose nothing. -/
theorem masked_indexAddress_add (m : Machine) (r : Nat) :
    masked (m.indexAddress + Int32.ofNat r) = Fin.ofNat 4096 (m.index.toNat + r) := by
  have hadd := toInt_add_emod m.indexAddress (Int32.ofNat r) (k := 4096) (by decide)
  have hrow := toInt_ofNat_emod r (k := 4096) (by decide)
  have hmask := masked_val (m.indexAddress + Int32.ofNat r)
  rw [indexAddress, toInt_widenWord] at hadd
  rw [indexAddress] at *
  apply Fin.ext
  rw [Fin.val_ofNat]
  omega

/-! ## Loops -/

theorem foldl_store (m : Machine) (address : Register → Int32) (byte : Register → UInt8)
    (rs : List Register) :
    rs.foldl (fun n r => n.store (address r) (byte r)) m =
      { m with memory := rs.foldl (fun c r => c.set (masked (address r)) (byte r)) m.memory } := by
  induction rs generalizing m with
  | nil => rfl
  | cons r rs ih => exact ih (m.store (address r) (byte r))

theorem foldl_setRegister (m : Machine) (byte : Register → UInt8) (rs : List Register) :
    rs.foldl (fun n r => n.setRegister r (byte r)) m =
      { m with registers := rs.foldl (fun c r => c.set r.val (byte r) r.isLt) m.registers } := by
  induction rs generalizing m with
  | nil => rfl
  | cons r rs ih => exact ih (m.setRegister r (byte r))

/-! ## Executing -/

theorem checkStack_push (m : Machine) :
    m.checkStack 2 = if m.sp.toNat + 2 ≤ 64 then .ok () else .error (.overflow m.sp) := by
  by_cases h : m.sp.toNat + 2 ≤ 64
  · rw [if_pos h, checkStack, if_neg (by rw [stackSize]; omega), if_neg (by omega)]
  · rw [if_neg h, checkStack, if_pos (by rw [stackSize]; omega)]

/-- A pointer above 66 would fail the check for room even when popping. -/
theorem checkStack_pop {m : Machine} (h : m.sp.toNat ≤ 64) :
    m.checkStack (-2) = if 2 ≤ m.sp.toNat then .ok () else .error (.underflow m.sp) := by
  rw [checkStack, if_neg (by rw [stackSize]; omega)]
  by_cases h2 : 2 ≤ m.sp.toNat
  · rw [if_pos h2, if_neg (by omega)]
  · rw [if_neg h2, if_pos (by omega)]

theorem room_of_checkStack {m : Machine} (h : m.checkStack 2 = .ok ()) : m.sp.toNat + 2 ≤ 64 := by
  by_contra hfull
  rw [checkStack_push, if_neg hfull] at h
  cases h

theorem two_le_of_checkStack {m : Machine} (h : m.checkStack (-2) = .ok ()) : 2 ≤ m.sp.toNat := by
  by_contra hlt
  rw [checkStack, if_neg (by rw [stackSize]; omega), if_pos (by omega)] at h
  cases h

theorem execute_call (m : Machine) (a : Int) :
    m.execute (.call a) = (m.checkStack 2).map fun _ => (m.call (Int32.ofInt a), .running) := rfl

theorem execute_ret (m : Machine) :
    m.execute .ret = (m.checkStack (-2)).map fun _ => (m.ret, .running) := rfl

theorem execute_of_stackChange_eq_zero (m : Machine) {i : Instruction} (h : i.stackChange = 0) :
    m.execute i =
      .ok (if i.blocking ∧ m.keys = 0 then (m, .waiting) else (m.complete i, .running)) := by
  rw [execute, stackReady, if_pos h]
  split <;> rfl

/-- An instruction waits and changes nothing, or completes with room for its move of the stack. -/
theorem execute_cases {m n : Machine} {i : Instruction} {s : Status}
    (h : m.execute i = .ok (n, s)) :
    (s = .waiting ∧ n = m) ∨ (s = .running ∧ n = m.complete i ∧ m.stackReady i = .ok ()) := by
  rw [execute] at h
  split at h
  · cases h
    exact Or.inl ⟨rfl, rfl⟩
  · cases hready : m.stackReady i with
    | ok _ =>
      rw [hready] at h
      cases h
      exact Or.inr ⟨rfl, rfl, rfl⟩
    | error fault =>
      rw [hready] at h
      cases h

/-! ## The stack -/

/-- **An instruction that does not move the stack pointer leaves the stack alone.** -/
theorem perform_stack (m : Machine) {i : Instruction} (h : i.stackChange = 0) :
    (m.perform i).sp = m.sp ∧ (m.perform i).stack = m.stack := by
  cases i with
  | call a => simp [Instruction.stackChange] at h
  | ret => simp [Instruction.stackChange] at h
  | skipEqualByte | skipNotEqualByte | skipEqualRegister | skipNotEqualRegister | skipKeyPressed
  | skipKeyNotPressed =>
    simp only [perform, skipIf]
    split <;> exact ⟨rfl, rfl⟩
  | waitForKey x =>
    simp only [perform]
    split <;> exact ⟨rfl, rfl⟩
  | storeRegisters x =>
    simp [perform, storeRegisters, indexPast, foldl_store]
  | loadRegisters x =>
    simp [perform, loadRegisters, indexPast, foldl_setRegister]
  | _ => exact ⟨rfl, rfl⟩

theorem complete_stack (m : Machine) {i : Instruction} (h : i.stackChange = 0) :
    (m.complete i).sp = m.sp ∧ (m.complete i).stack = m.stack := by
  rw [complete]
  split
  · exact perform_stack m h
  · exact perform_stack m h

end Chip8.Machine
