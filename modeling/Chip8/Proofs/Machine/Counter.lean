import Chip8.Proofs.Instruction.Encoding
import Chip8.Proofs.Machine.Run

/-!
# The program counter

**The law** (`CounterLaw`). Jumps and calls continue at the last three digits of their word, a jump
with an offset adds the first register to them, a return continues at the word it pops, a skip whose
condition holds moves by two words, and everything else by one; all modulo the memory's length. An
instruction that waits or faults leaves the counter alone.

**Two places of one update.** A skip adds to the counter in sixteen bits and leaves the rest to the
move past its own word, which reduces to twelve bits. The first wraps at a multiple of the second's
modulus, so their sum is that of the exact numbers, also for counters above memory
(`toNat_complete_pc`).

**Runs.** Every instruction that completes ends with such a reduction, so from power on the counter
stays within memory (`counterLaw`).
-/

namespace Chip8

namespace Instruction

/-! ## Addresses in a word -/

/-- The address an instruction names. -/
def address? : Instruction → Option Int
  | jump a | call a | jumpOffset a | loadIndex a => some a
  | _ => none

theorem address?_decodeSystem (w : UInt16) : (decodeSystem w).address? = none := by
  unfold decodeSystem
  split_ifs <;> rfl

theorem address?_decodeArithmetic (x y : Register) (n : Nat) :
    (decodeArithmetic x y n).address? = none := by
  unfold decodeArithmetic
  split <;> rfl

theorem address?_decodeKey (x : Register) (kk : Nat) : (decodeKey x kk).address? = none := by
  unfold decodeKey
  split <;> rfl

theorem address?_decodeTransfer (x : Register) (kk : Nat) :
    (decodeTransfer x kk).address? = none := by
  unfold decodeTransfer
  split <;> rfl

/-- An address in a word is its last three digits. -/
theorem address?_decodeWord {w : UInt16} {a : Int} (h : (decodeWord w).address? = some a) :
    a = (w.toNat % 4096 : Nat) := by
  rw [← lowTriple_eq]
  unfold decodeWord at h
  split at h
  -- The families 0, 8, E and F decode further, and name no address.
  case h_1 => simp only [address?_decodeSystem, reduceCtorEq] at h
  case h_9 => simp only [address?_decodeArithmetic, reduceCtorEq] at h
  case h_15 => simp only [address?_decodeKey, reduceCtorEq] at h
  case h_16 => simp only [address?_decodeTransfer, reduceCtorEq] at h
  all_goals
    cases h
    try rfl

end Instruction

namespace Machine

open Instruction

/-! ## Skips -/

/-- A key is held: there are sixteen, and the mask has a bit for each. -/
def holds (m : Machine) (key : UInt8) : Bool :=
  key.toNat ≤ 15 && m.keys.toNat.testBit key.toNat

/-- The instruction is a skip, and its condition holds. -/
def skips (m : Machine) : Instruction → Bool
  | .skipEqualByte x k => (m.register x).toNat = k
  | .skipNotEqualByte x k => (m.register x).toNat ≠ k
  | .skipEqualRegister x y => m.register x == m.register y
  | .skipNotEqualRegister x y => m.register x != m.register y
  | .skipKeyPressed x => m.holds (m.register x)
  | .skipKeyNotPressed x => !m.holds (m.register x)
  | _ => false

theorem keyHeld_eq (m : Machine) (key : UInt8) : m.keyHeld key = m.holds key := by
  have hlt : key < 16 ↔ key.toNat ≤ 15 := by
    rw [UInt8.lt_iff_toNat_lt]
    exact Nat.lt_succ_iff
  rw [keyHeld, holds, decide_eq_decide.2 hlt]
  by_cases h : key.toNat ≤ 15
  · rw [← UInt16.ofNat_uInt8ToNat, shiftRight_and_one m.keys (by omega)]
  · rw [decide_eq_false h, Bool.false_and, Bool.false_and]

theorem skipIf_pc (m : Machine) (c : Bool) :
    (m.skipIf c).pc = if c then m.pc + 2 else m.pc := by
  cases c <;> rfl

/-- Before the move past its own word, only a skip has moved the counter. -/
theorem perform_pc (m : Machine) {i : Instruction} (h : i.transfersControl = false) :
    (m.perform i).pc = if m.skips i then m.pc + 2 else m.pc := by
  cases i with
  | ret | jump | call | jumpOffset => cases h
  | skipEqualByte | skipNotEqualByte | skipEqualRegister | skipNotEqualRegister =>
    exact skipIf_pc m _
  | skipKeyPressed | skipKeyNotPressed =>
    rw [perform, skipIf_pc, keyHeld_eq]
    rfl
  | waitForKey x =>
    simp only [perform]
    split <;> rfl
  | storeRegisters x =>
    simp only [perform, storeRegisters, indexPast, foldl_store]
    rfl
  | loadRegisters x =>
    simp only [perform, loadRegisters, indexPast, foldl_setRegister]
    rfl
  | _ => rfl

/-- **The two moves add up**, wherever the counter starts. -/
theorem toNat_complete_pc (m : Machine) {i : Instruction} (h : i.transfersControl = false) :
    (m.complete i).pc.toNat = (m.pc.toNat + if m.skips i then 4 else 2) % 4096 := by
  rw [complete, h, if_neg Bool.false_ne_true, toNat_advance_pc, perform_pc m h]
  split
  · rw [UInt16.toNat_add]
    -- The inner remainder is by a multiple of the outer one.
    show ((m.pc.toNat + 2) % 65536 + 2) % 4096 = _
    omega
  · rfl

/-- Of two skips, one is taken and the other is not. -/
def Opposite (m : Machine) (i j : Instruction) : Prop :=
  ∃ n k, m.execute i = .ok (n, .running) ∧ m.execute j = .ok (k, .running) ∧
    (n.pc.toNat = (m.pc.toNat + 4) % 4096 ∧ k.pc.toNat = (m.pc.toNat + 2) % 4096 ∨
      n.pc.toNat = (m.pc.toNat + 2) % 4096 ∧ k.pc.toNat = (m.pc.toNat + 4) % 4096)

theorem opposite_of_skips {m : Machine} {i j : Instruction}
    (hi : m.execute i = .ok (m.complete i, .running)) (hitransfers : i.transfersControl = false)
    (hj : m.execute j = .ok (m.complete j, .running)) (hjtransfers : j.transfersControl = false)
    (hskips : m.skips j = !m.skips i) : m.Opposite i j := by
  refine ⟨_, _, hi, hj, ?_⟩
  rw [toNat_complete_pc m hitransfers, toNat_complete_pc m hjtransfers, hskips]
  cases m.skips i with
  | true => exact Or.inl ⟨rfl, rfl⟩
  | false => exact Or.inr ⟨rfl, rfl⟩

/-! ## Where a word continues -/

/-- Where the machine continues after a word. -/
def successor (m : Machine) (w : UInt16) : Nat :=
  let nnn := w.toNat % 4096
  match decodeWord w with
  | .jump _ | .call _ => nnn
  | .jumpOffset _ => (nnn + (m.register firstRegister).toNat) % 4096
  | .ret => m.pop.2.toNat % 4096
  | i => (m.pc.toNat + if m.skips i then 4 else 2) % 4096

theorem toNat_complete_decodeWord_pc (m : Machine) (w : UInt16) :
    (m.complete (decodeWord w)).pc.toNat = m.successor w := by
  rw [successor]
  cases hi : decodeWord w with
  | jump a | call a =>
    obtain rfl := address?_decodeWord (congrArg address? hi)
    exact (toNat_jump_ofInt_pc _ _).trans (Nat.mod_mod _ _)
  | jumpOffset a =>
    obtain rfl := address?_decodeWord (congrArg address? hi)
    exact toNat_jumpOffset_pc m _
  | ret => exact toNat_ret_pc m
  | _ => exact toNat_complete_pc m rfl

/-! ## Runs -/

theorem toNat_jump_pc_lt (m : Machine) (a : Int32) : (m.jump a).pc.toNat < 4096 := by
  have h := toNat_jump_pc m a
  omega

theorem toNat_complete_pc_lt (m : Machine) (i : Instruction) :
    (m.complete i).pc.toNat < 4096 := by
  cases hi : i.transfersControl with
  | true =>
    cases i with
    | ret | jump | call | jumpOffset => exact toNat_jump_pc_lt _ _
    | _ => cases hi
  | false =>
    rw [toNat_complete_pc m hi]
    exact Nat.mod_lt _ (by decide)

theorem toNat_act_pc_lt {m : Machine} (hm : m.pc.toNat < 4096) (a : Action) :
    (m.act a).pc.toNat < 4096 := by
  have h := acted m a
  generalize m.act a = n at h ⊢
  cases h with
  | executed h =>
    rcases execute_cases h with ⟨-, hn⟩ | ⟨-, hn, -⟩ <;> rw [hn]
    · exact hm
    · exact toNat_complete_pc_lt m _
  | _ => exact hm

theorem toNat_run_pc_lt (random : RandomKey) (actions : List Action) :
    ((powerOn random).run actions).pc.toNat < 4096 :=
  run_induction (P := fun n => n.pc.toNat < 4096) (toNat_jump_pc_lt _ _)
    (fun _ a h => toNat_act_pc_lt h a) actions

/-- What every word does to the program counter of a machine. -/
structure CounterLaw (m : Machine) : Prop where
  word (w : UInt16) :
    match m.execute (decodeWord w) with
    | .ok (n, .running) => n.pc.toNat = m.successor w
    | .ok (n, .waiting) => n.pc = m.pc
    | .error _ => (m.act (.execute (decodeWord w))).pc = m.pc
  byte (x : Register) (k : Int) : m.Opposite (.skipEqualByte x k) (.skipNotEqualByte x k)
  register (x y : Register) : m.Opposite (.skipEqualRegister x y) (.skipNotEqualRegister x y)
  key (x : Register) : m.Opposite (.skipKeyPressed x) (.skipKeyNotPressed x)

/-- **The program counter.** The law holds on every machine, and from power on the counter stays
within memory, whatever a host does. -/
theorem counterLaw :
    (∀ m, CounterLaw m) ∧
      ∀ random actions, ((powerOn random).run actions).pc.toNat < 4096 := by
  refine ⟨fun m => ⟨fun w => ?_, fun x k => ?_, fun x y => ?_, fun x => ?_⟩, toNat_run_pc_lt⟩
  · cases h : m.execute (decodeWord w) with
    | ok r =>
      obtain ⟨n, s⟩ := r
      rcases execute_cases h with ⟨rfl, rfl⟩ | ⟨rfl, rfl, -⟩
      · rfl
      · exact toNat_complete_decodeWord_pc m w
    | error fault =>
      simp only [act, issue, h]
      rfl
  · exact opposite_of_skips rfl rfl rfl rfl (by simp only [skips, ne_eq, decide_not])
  · exact opposite_of_skips rfl rfl rfl rfl rfl
  · exact opposite_of_skips rfl rfl rfl rfl rfl

end Machine

end Chip8
