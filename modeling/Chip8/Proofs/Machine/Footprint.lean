import Chip8.Proofs.Machine.Stack

/-!
# What an instruction writes

**Footprints** (`Footprint`). Each instruction comes with the registers, the cells of memory and of
the stack, and the fields that it may write. Completing it leaves all others as they were. Only the
program counter has no footprint: everything that completes moves it.

**Built up write by write** (`Kept`). An effect is a sequence of writes, in the two block transfers
of any length. Each single write keeps what lies outside the footprint if it hits a cell of the
footprint, so the instructions are gone through once (`perform_kept`), and each names its writes.

**Addresses wrap.** A block of memory is a set of cells, those at the remainders of consecutive
addresses, which need not be consecutive themselves (`Instruction.block`).
-/

namespace Chip8

/-- A field of the machine that is written as a whole, if at all. -/
inductive Field where
  | index
  | delay
  | sound
  | random
  | keys
  | screen
deriving DecidableEq

namespace Instruction

/-! ## What an instruction may write -/

/-- The fields an instruction may write. -/
def writes : Instruction → Field → Bool
  | loadIndex _, .index | addIndex _, .index | loadSprite _, .index | storeRegisters _, .index
  | loadRegisters _, .index => true
  | setDelayTimer _, .delay => true
  | setSoundTimer _, .sound => true
  | random _ _, .random => true
  | clearScreen, .screen | draw _ _ _, .screen => true
  | _, _ => false

/-- The registers an instruction may write. -/
def registersWritten : Instruction → Set Register
  | loadByte x _ | addByte x _ | random x _ | loadRegister x _ | bitOr x _ | bitAnd x _
  | bitXor x _ | loadDelayTimer x | waitForKey x => {x}
  | addRegister x _ | subtract x _ | shiftRight x | subtractReversed x _ | shiftLeft x =>
    {x, flagRegister}
  | draw _ _ _ => {flagRegister}
  | loadRegisters x => {r | r ≤ x}
  | _ => ∅

/-- The cells of memory from an index on, up to a distance. -/
def block (index : UInt16) (last : Nat) : Set (Fin 4096) :=
  {a | ∃ r ≤ last, a.val = (index.toNat + r) % 4096}

/-- The cells of memory an instruction may write. -/
def memoryWritten (index : UInt16) : Instruction → Set (Fin 4096)
  | storeDigits _ => block index 2
  | storeRegisters x => block index x
  | _ => ∅

/-- The cells of the stack an instruction may write. -/
def stackWritten (sp : UInt8) : Instruction → Set (Fin 64)
  | call _ => {k | k.val = sp.toNat ∨ k.val = sp.toNat + 1}
  | _ => ∅

end Instruction

namespace Machine

open Instruction

/-! ## Addresses in a block -/

theorem masked_mem_block (m : Machine) {r last : Nat} (h : r ≤ last) :
    masked (m.indexAddress + Int32.ofNat r) ∈ block m.index last :=
  ⟨r, h, congrArg Fin.val (masked_indexAddress_add m r)⟩

theorem le_of_mem_registersTo {x r : Register} (h : r ∈ registersTo x) : r ≤ x :=
  of_decide_eq_true (List.mem_filter.1 h).2

/-! ## Single writes -/

/-- The machines have the same value in a field. -/
def SameAt (m n : Machine) : Field → Prop
  | .index => n.index = m.index
  | .delay => n.delay = m.delay
  | .sound => n.sound = m.sound
  | .random => n.random = m.random
  | .keys => n.keys = m.keys
  | .screen => n.screen = m.screen

/-- The stack apart, `n` has everything that an instruction may not write as `m` has it. -/
structure Kept (i : Instruction) (m n : Machine) : Prop where
  registers : ∀ r ∉ i.registersWritten, n.register r = m.register r
  memory : ∀ a ∉ i.memoryWritten m.index, n.memory[a] = m.memory[a]
  fields : ∀ f, i.writes f = false → m.SameAt n f

namespace Kept

variable {i : Instruction} {m n : Machine}

theorem refl : Kept i m m :=
  ⟨fun _ _ => rfl, fun _ _ => rfl, fun f _ => by cases f <;> rfl⟩

theorem setRegister (h : Kept i m n) {x : Register} (hx : x ∈ i.registersWritten) (b : UInt8) :
    Kept i m (n.setRegister x b) := by
  refine ⟨fun r hr => ?_, h.memory, h.fields⟩
  have hne : x ≠ r := fun hxr => hr (hxr ▸ hx)
  rw [register_setRegister, if_neg hne]
  exact h.registers r hr

theorem store (h : Kept i m n) {a : Int32} (ha : masked a ∈ i.memoryWritten m.index)
    (b : UInt8) : Kept i m (n.store a b) := by
  refine ⟨h.registers, fun c hc => ?_, h.fields⟩
  have hne : (masked a).val ≠ c.val := fun hac => hc (Fin.ext hac ▸ ha)
  rw [← h.memory c hc]
  exact Vector.getElem_set_ne (masked a).isLt c.isLt hne

/-- A write of fields, registers and memory left alone. -/
theorem update (h : Kept i m n) {k : Machine} (hregisters : k.registers = n.registers)
    (hmemory : k.memory = n.memory) (hfields : ∀ f, i.writes f = false → n.SameAt k f) :
    Kept i m k := by
  refine ⟨fun r hr => ?_, fun a ha => ?_, fun f hf => ?_⟩
  · rw [← h.registers r hr, register, register, hregisters]
  · rw [← h.memory a ha, hmemory]
  · have hm := h.fields f hf
    have hk := hfields f hf
    cases f <;> exact hk.trans hm

end Kept

/-! ## Whole effects -/

/-- **An effect keeps what lies outside its footprint.** -/
theorem perform_kept (m : Machine) (i : Instruction) : Kept i m (m.perform i) := by
  cases i with
  | loadByte | addByte | loadRegister | bitOr | bitAnd | bitXor | loadDelayTimer =>
    exact Kept.refl.setRegister rfl _
  | addRegister | subtract | shiftRight | subtractReversed | shiftLeft =>
    exact (Kept.refl.setRegister (Or.inr rfl) _).setRegister (Or.inl rfl) _
  | waitForKey x =>
    simp only [perform]
    split
    · exact Kept.refl.setRegister rfl _
    · exact Kept.refl
  | skipEqualByte | skipNotEqualByte | skipEqualRegister | skipNotEqualRegister | skipKeyPressed
  | skipKeyNotPressed =>
    simp only [perform, skipIf]
    split
    · exact Kept.refl.update rfl rfl fun f _ => by cases f <;> rfl
    · exact Kept.refl
  | random x k =>
    have hregister : Kept (.random x k) m (m.setRegister x (m.random.byte &&& UInt8.ofInt k)) :=
      Kept.refl.setRegister rfl _
    exact hregister.update rfl rfl fun f hf => by cases f <;> first | rfl | cases hf
  | draw x y height =>
    let drawn := m.drawSprite (widen (m.register x)) (widen (m.register y)) height.toNat
    have hscreen : Kept (.draw x y height) m { m with screen := drawn.1 } :=
      Kept.refl.update rfl rfl fun f hf => by cases f <;> first | rfl | cases hf
    exact hscreen.setRegister rfl _
  | storeDigits x =>
    have h0 : masked m.indexAddress ∈ block m.index 2 := by
      simpa using masked_mem_block m (Nat.zero_le 2)
    have h1 : masked (m.indexAddress + 1) ∈ block m.index 2 := masked_mem_block m (by decide)
    have h2 : masked (m.indexAddress + 2) ∈ block m.index 2 := masked_mem_block m (le_refl 2)
    have hstart : Kept (.storeDigits x) m m := .refl
    exact ((hstart.store h0 _).store h1 _).store h2 _
  -- The two loops: every register of the list is at most `x`, so each write hits the footprint.
  | storeRegisters x =>
    have hloop : Kept (.storeRegisters x) m ((registersTo x).foldl
        (fun n (r : Register) => n.store (m.indexAddress + Int32.ofNat r) (m.register r)) m) :=
      List.foldlRecOn _ _ Kept.refl fun _ hn _ hr =>
        hn.store (masked_mem_block m (le_of_mem_registersTo hr)) _
    exact hloop.update rfl rfl fun f hf => by cases f <;> first | rfl | cases hf
  | loadRegisters x =>
    have hloop : Kept (.loadRegisters x) m ((registersTo x).foldl
        (fun n (r : Register) =>
          n.setRegister r (m.load (m.indexAddress + Int32.ofNat r))) m) :=
      List.foldlRecOn _ _ Kept.refl fun _ hn _ hr => hn.setRegister (le_of_mem_registersTo hr) _
    exact hloop.update rfl rfl fun f hf => by cases f <;> first | rfl | cases hf
  | _ => exact Kept.refl.update rfl rfl fun f hf => by cases f <;> first | rfl | cases hf

theorem complete_kept (m : Machine) (i : Instruction) : Kept i m (m.complete i) := by
  rw [complete]
  split
  · exact perform_kept m i
  · exact (perform_kept m i).update rfl rfl fun f _ => by cases f <;> rfl

/-- What an instruction that completes leaves as it was; the program counter is not told of. -/
structure Footprint (i : Instruction) (m n : Machine) : Prop extends Kept i m n where
  stack : ∀ k ∉ i.stackWritten m.sp, n.stack[k] = m.stack[k]
  sp : (n.sp.toNat : Int) = m.sp.toNat + i.stackChange

theorem getElem_push_stack (m : Machine) (v : UInt16) {k : Fin 64}
    (hk : ¬ (k.val = m.sp.toNat ∨ k.val = m.sp.toNat + 1)) :
    (m.push v).stack[k] = m.stack[k] := by
  have h := read_push m v k.isLt
  rw [if_neg (by omega), if_neg (by omega), Cells.read_natCast _ k.isLt,
    Cells.read_natCast _ k.isLt] at h
  exact h

theorem complete_footprint {m : Machine} {i : Instruction} (hready : m.stackReady i = .ok ()) :
    Footprint i m (m.complete i) := by
  -- Only calls and returns move the pointer, and only calls write to the stack.
  by_cases hi : i.stackChange = 0
  · have ⟨hsp, hstack⟩ := complete_stack m hi
    exact { complete_kept m i with
      stack := fun k _ => by rw [hstack]
      sp := by rw [hsp, hi, add_zero] }
  · cases i with
    | call a =>
      have hsp : (m.complete (.call a)).sp.toNat = m.sp.toNat + 2 :=
        toNat_sp_push (room_of_checkStack hready) rfl
      exact { complete_kept m _ with
        stack := fun k hk => getElem_push_stack m _ hk
        sp := by rw [hsp]; rfl }
    | ret =>
      have hsp : (m.complete .ret).sp.toNat + 2 = m.sp.toNat :=
        toNat_sp_pop (two_le_of_checkStack hready) rfl
      exact { complete_kept m _ with
        stack := fun _ _ => rfl
        sp := by rw [← hsp, stackChange]; omega }
    | _ => exact absurd rfl hi

/-- **Completing an instruction writes within its footprint**, the program counter apart. -/
theorem execute_footprint {m n : Machine} {i : Instruction}
    (h : m.execute i = .ok (n, .running)) : Footprint i m n := by
  rcases execute_cases h with ⟨hs, -⟩ | ⟨-, rfl, hready⟩
  · cases hs
  · exact complete_footprint hready

/-- The registers `V0` and `V1` go to the last cell of memory and the first. -/
theorem execute_footprint_wrapped :
    let m := { powerOn ⟨0, 0⟩ with index := 0xFFF }
    ∃ n, m.execute (decodeWord 0xF155) = .ok (n, .running) ∧ Footprint (decodeWord 0xF155) m n :=
  ⟨_, rfl, execute_footprint rfl⟩

/-- Even the word that does nothing moves the program counter. -/
theorem noOperation_moves_pc :
    ∃ n, (powerOn ⟨0, 0⟩).execute (decodeWord 0x0000) = .ok (n, .running) ∧
      decodeWord 0x0000 = .noOperation ∧ n.pc ≠ (powerOn ⟨0, 0⟩).pc :=
  ⟨(powerOn ⟨0, 0⟩).advance 2, rfl, rfl, by decide⟩

end Machine

end Chip8
