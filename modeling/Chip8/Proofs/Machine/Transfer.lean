import Chip8.Proofs.Instruction.Encoding
import Chip8.Proofs.Machine.Footprint

/-!
# Block transfers

Registers go to memory and come back, a block of cells from the index on for the registers up to
some `x`. Addresses wrap at the end of memory, and the index moves past the block in sixteen bits.

**Blocks wrap but do not overlap.** A block has at most sixteen cells and memory has 4096, so the
cells of a block are different wherever it starts (`cellFrom_injective`). A loop of writes to
different cells leaves each one's own byte in it, and all other cells alone
(`Cells.get_foldl_set`).

**There and back** (`transfers_undo`). What a transfer does is told cell by cell and register by
register (`RegistersStored`, `RegistersLoaded`), and either of the two undoes the other as soon as
the index is put back.

**Decimal digits** (`digits_reload`). The digits of a register are stored as a block of three bytes
(`storeDigits_eq`), which the same transfer loads.
-/

namespace Chip8

/-! ## Loops of writes -/

namespace Cells

variable {n : Nat} {ρ : Type} (place : ρ → Fin n) (byte : ρ → UInt8)

/-- A loop of writes leaves a cell that it does not name. -/
theorem get_foldl_set_of_forall_ne (rs : List ρ) (cells : Cells n) {i : Fin n}
    (h : ∀ r ∈ rs, place r ≠ i) :
    (rs.foldl (fun c r => c.set (place r) (byte r)) cells).get i = cells.get i := by
  induction rs generalizing cells with
  | nil => rfl
  | cons r rs ih =>
    rw [List.forall_mem_cons] at h
    rw [List.foldl_cons, ih _ h.2]
    exact Vector.getElem_set_ne _ _ (mt Fin.ext h.1)

/-- Of a loop of writes to different cells, each cell keeps its byte. -/
theorem get_foldl_set (hplace : Function.Injective place) {rs : List ρ} (cells : Cells n)
    {r : ρ} (h : r ∈ rs) :
    (rs.foldl (fun c r => c.set (place r) (byte r)) cells).get (place r) = byte r := by
  induction rs generalizing cells with
  | nil => cases h
  | cons s rs ih =>
    by_cases hr : r ∈ rs
    · exact ih _ hr
    · -- The cell is written first and never again.
      obtain rfl : r = s := (List.mem_cons.1 h).resolve_right hr
      have hlast : ∀ s ∈ rs, place s ≠ place r := fun s hs heq => hr (hplace heq ▸ hs)
      rw [List.foldl_cons, get_foldl_set_of_forall_ne place byte rs _ hlast]
      exact Vector.getElem_set_self _

end Cells

/-! ## Digits -/

/-- **Three digits make up the low byte.** -/
theorem Digits.ofInt_value (n : Int) :
    let d := ofInt n
    d.hundreds ≤ 9 ∧ d.tens ≤ 9 ∧ d.ones ≤ 9 ∧
      ((100 * d.hundreds + 10 * d.tens + d.ones : Nat) : Int) = n % 256 := by
  simp only [ofInt]
  omega

theorem Digits.getD_le (n : Int) (k : Nat) : (ofInt n).toList.getD k 0 ≤ 9 := by
  obtain ⟨hhundreds, htens, hones, -⟩ := ofInt_value n
  rcases k with _ | _ | _ | k
  · exact hhundreds
  · exact htens
  · exact hones
  · exact Nat.zero_le 9

namespace Machine

open Instruction

/-! ## Cells of a block -/

/-- The cell of memory at a distance from an index. -/
def cellFrom (index : UInt16) (distance : Nat) : Fin 4096 :=
  ⟨(index.toNat + distance) % 4096, Nat.mod_lt _ (by decide)⟩

/-- The cells of a block are different, also around the end of memory. -/
theorem cellFrom_injective (index : UInt16) :
    Function.Injective fun r : Register => cellFrom index r := by
  intro r s h
  have hval : (index.toNat + r) % 4096 = (index.toNat + s) % 4096 := congrArg Fin.val h
  have hr := r.isLt
  have hs := s.isLt
  apply Fin.ext
  omega

/-- Memory is its cells inside a block and outside it. -/
theorem ext_block {s t : Cells 4096} (index : UInt16) (x : Register)
    (hinside : ∀ r ≤ x, s.get (cellFrom index r) = t.get (cellFrom index r))
    (houtside : ∀ a ∉ block index x, s.get a = t.get a) : s = t := by
  apply Vector.ext
  intro i hi
  by_cases h : (⟨i, hi⟩ : Fin 4096) ∈ block index x
  · obtain ⟨r, hr, hcell⟩ := h
    obtain rfl : i = (cellFrom index r).val := hcell
    exact hinside ⟨r, Nat.lt_of_le_of_lt hr x.isLt⟩ hr
  · exact houtside ⟨i, hi⟩ h

theorem masked_cellFrom (m : Machine) (r : Nat) :
    masked (m.indexAddress + Int32.ofNat r) = cellFrom m.index r :=
  masked_indexAddress_add m r

theorem mem_registersTo {x r : Register} : r ∈ registersTo x ↔ r ≤ x := by
  simp only [registersTo, List.mem_filter, List.mem_finRange, true_and, decide_eq_true_iff]

section

variable (m : Machine) (x : Register)

/-! ## Storing a block -/

/-- Stores a byte for each register up to `x`, from the index on. -/
def storeBlock (byte : Register → UInt8) : Machine :=
  (registersTo x).foldl
    (fun n (r : Register) => n.store (m.indexAddress + Int32.ofNat r) (byte r)) m

variable (byte : Register → UInt8)

theorem storeBlock_memory :
    (m.storeBlock x byte).memory =
      (registersTo x).foldl (fun c r => c.set (cellFrom m.index r) (byte r)) m.memory := by
  simp only [storeBlock, foldl_store, masked_cellFrom]

theorem storeBlock_inside {r : Register} (h : r ≤ x) :
    (m.storeBlock x byte).memory.get (cellFrom m.index r) = byte r := by
  rw [storeBlock_memory]
  exact Cells.get_foldl_set (fun r : Register => cellFrom m.index r) byte
    (cellFrom_injective m.index) _ (mem_registersTo.2 h)

theorem storeBlock_outside {a : Fin 4096} (h : a ∉ block m.index x) :
    (m.storeBlock x byte).memory.get a = m.memory.get a := by
  have hcell : ∀ r ∈ registersTo x, cellFrom m.index r ≠ a := by
    rintro r hr rfl
    exact h ⟨r, mem_registersTo.1 hr, rfl⟩
  rw [storeBlock_memory]
  exact Cells.get_foldl_set_of_forall_ne _ byte _ _ hcell

/-- Storing decimal digits is storing a block of three bytes. -/
theorem storeDigits_eq :
    m.storeDigits x = m.storeBlock 2 fun r =>
      UInt8.ofNat ((Digits.ofInt (m.register x).toNat).toList.getD r 0) := by
  have hzero : m.indexAddress + Int32.ofNat 0 = m.indexAddress := Int32.add_zero _
  have hregisters : registersTo 2 = [0, 1, 2] := by decide
  simp only [storeBlock, hregisters, List.foldl_cons, List.foldl_nil]
  show _ = ((m.store (m.indexAddress + Int32.ofNat 0) _).store _ _).store _ _
  rw [hzero]
  rfl

/-! ## Loading a block -/

theorem register_loadRegisters (r : Register) :
    (m.loadRegisters x).register r =
      if r ≤ x then m.memory.get (cellFrom m.index r) else m.register r := by
  simp only [loadRegisters, indexPast, foldl_setRegister, load, masked_cellFrom, register]
  by_cases h : r ≤ x
  · rw [if_pos h]
    exact Cells.get_foldl_set (fun r : Register => r) _ (fun _ _ => id) _
      (mem_registersTo.2 h)
  · have hregister : ∀ s ∈ registersTo x, s ≠ r := by
      rintro s hs rfl
      exact h (mem_registersTo.1 hs)
    rw [if_neg h]
    exact Cells.get_foldl_set_of_forall_ne (fun r : Register => r) _ _ _ hregister

theorem toNat_indexPast : (m.indexPast x).index.toNat = (m.index.toNat + x + 1) % 65536 := by
  simp only [indexPast, UInt16.toNat_add, UInt16.toNat_ofNat']
  show ((m.index.toNat + x % 65536) % 65536 + 1) % 65536 = _
  omega

end

/-! ## Transfers -/

/-- What storing the registers up to `x` makes of a machine. -/
structure RegistersStored (m : Machine) (x : Register) (n : Machine) : Prop where
  stored : ∀ r ≤ x, n.memory.get (cellFrom m.index r) = m.register r
  kept : ∀ a ∉ block m.index x, n.memory.get a = m.memory.get a
  index : n.index.toNat = (m.index.toNat + x + 1) % 65536
  rest : n = { m with memory := n.memory, index := n.index, pc := n.pc }

/-- What loading the registers up to `x` makes of a machine. -/
structure RegistersLoaded (m : Machine) (x : Register) (n : Machine) : Prop where
  loaded : ∀ r ≤ x, n.register r = m.memory.get (cellFrom m.index r)
  kept : ∀ r, x < r → n.register r = m.register r
  index : n.index.toNat = (m.index.toNat + x + 1) % 65536
  rest : n = { m with registers := n.registers, index := n.index, pc := n.pc }

/-- What storing the decimal digits of `x` makes of a machine. -/
structure DigitsStored (m : Machine) (x : Register) (n : Machine) : Prop where
  stored : ∀ r ≤ (2 : Register), (n.memory.get (cellFrom m.index r)).toNat =
    (Digits.ofInt (m.register x).toNat).toList.getD r 0
  kept : ∀ a ∉ block m.index 2, n.memory.get a = m.memory.get a
  rest : n = { m with memory := n.memory, pc := n.pc }

section

variable (m : Machine) (x : Register)

theorem execute_storeRegisters :
    ∃ n, m.execute (.storeRegisters x) = .ok (n, .running) ∧ RegistersStored m x n := by
  refine ⟨(m.storeRegisters x).advance 2, rfl, ?_, ?_, ?_, ?_⟩
  · exact fun r hr => m.storeBlock_inside x m.register hr
  · exact fun a ha => m.storeBlock_outside x m.register ha
  · simp only [storeRegisters, foldl_store]
    exact m.toNat_indexPast x
  · simp only [storeRegisters, foldl_store]
    rfl

theorem execute_loadRegisters :
    ∃ n, m.execute (.loadRegisters x) = .ok (n, .running) ∧ RegistersLoaded m x n := by
  refine ⟨(m.loadRegisters x).advance 2, rfl, ?_, ?_, ?_, ?_⟩
  · exact fun r hr => (m.register_loadRegisters x r).trans (if_pos hr)
  · exact fun r hr => (m.register_loadRegisters x r).trans (if_neg (not_le.2 hr))
  · simp only [loadRegisters, foldl_setRegister]
    exact m.toNat_indexPast x
  · simp only [loadRegisters, foldl_setRegister]
    rfl

theorem execute_storeDigits :
    ∃ n, m.execute (.storeDigits x) = .ok (n, .running) ∧ DigitsStored m x n := by
  refine ⟨(m.storeDigits x).advance 2, rfl, fun r hr => ?_, fun a ha => ?_, rfl⟩
  · show ((m.storeDigits x).memory.get (cellFrom m.index r)).toNat = _
    have hdigit := Digits.getD_le (m.register x).toNat r
    rw [storeDigits_eq, storeBlock_inside _ _ _ hr]
    exact UInt8.toNat_ofNat_of_lt' (by rw [UInt8.size]; omega)
  · show (m.storeDigits x).memory.get a = _
    rw [storeDigits_eq]
    exact m.storeBlock_outside 2 _ ha

end

/-! ## There and back -/

section

variable {m n k stored loaded : Machine} {x : Register}

/-- Whatever became of the registers, loading from a stored block brings them back. -/
theorem RegistersStored.undone (h : RegistersStored m x stored)
    (hmemory : n.memory = stored.memory) (hindex : n.index = m.index) :
    ∃ k, n.execute (.loadRegisters x) = .ok (k, .running) ∧
      ∀ r ≤ x, k.register r = m.register r := by
  obtain ⟨k, hk, hback⟩ := n.execute_loadRegisters x
  refine ⟨k, hk, fun r hr => ?_⟩
  rw [hback.loaded r hr, ← h.stored r hr]
  simp only [hmemory, hindex]

/-- Storing the registers loaded from a block writes the bytes that are there. -/
theorem RegistersLoaded.undone (h : RegistersLoaded m x loaded)
    (hregisters : n.registers = loaded.registers) (hmemory : n.memory = loaded.memory)
    (hindex : n.index = m.index) :
    ∃ k, n.execute (.storeRegisters x) = .ok (k, .running) ∧ k.memory = m.memory := by
  obtain ⟨k, hk, hback⟩ := n.execute_storeRegisters x
  have hsame : n.memory = m.memory := by rw [hmemory, h.rest]
  -- In the block the store writes back what was loaded; elsewhere it writes nothing.
  refine ⟨k, hk, ext_block m.index x (fun r hr => ?_) fun a ha => ?_⟩
  · have hregister : n.register r = loaded.register r := by
      rw [register, register, hregisters]
    have hcell := hback.stored r hr
    rw [hregister, h.loaded r hr] at hcell
    simpa only [hindex] using hcell
  · rw [hback.kept a (hindex ▸ ha), hsame]

/-- The registers loaded after the digits of `x` were stored. -/
theorem DigitsStored.reloaded (h : DigitsStored m x n) (hk : RegistersLoaded n 2 k) {r : Register}
    (hr : r ≤ 2) :
    (k.register r).toNat = (Digits.ofInt (m.register x).toNat).toList.getD r 0 := by
  have hindex : n.index = m.index := by rw [h.rest]
  rw [hk.loaded r hr, ← h.stored r hr]
  simp only [hindex]

/-- They make up the value `x` had, also if it is one of them. -/
theorem DigitsStored.reloaded_value (h : DigitsStored m x n) (hk : RegistersLoaded n 2 k) :
    100 * (k.register 0).toNat + 10 * (k.register 1).toNat + (k.register 2).toNat =
      (m.register x).toNat := by
  have hvalue := (Digits.ofInt_value (m.register x).toNat).2.2.2
  have hsmall : ((m.register x).toNat : Int) % 256 = (m.register x).toNat := by
    have hbyte := (m.register x).toNat_lt
    omega
  rw [h.reloaded hk (by decide), h.reloaded hk (by decide), h.reloaded hk (by decide)]
  exact Int.ofNat_inj.1 (hvalue.trans hsmall)

end

/-- **Storing and loading undo each other**, wherever the block lies. The words `FX55` and `FX65`
complete. After a store, whatever has become of the registers, a load from the same index brings
back those up to `x`. After a load, a store of the same registers at the same index leaves memory
as it was. -/
theorem transfers_undo (m : Machine) (x : Register) :
    let store := decodeWord (Instruction.word 0xF (x.val * 0x100 + 0x55))
    let load := decodeWord (Instruction.word 0xF (x.val * 0x100 + 0x65))
    ∃ stored loaded, m.execute store = .ok (stored, .running) ∧ RegistersStored m x stored ∧
      m.execute load = .ok (loaded, .running) ∧ RegistersLoaded m x loaded ∧
      (∀ n : Machine, n.memory = stored.memory → n.index = m.index →
        ∃ k, n.execute load = .ok (k, .running) ∧ ∀ r ≤ x, k.register r = m.register r) ∧
      ∀ n : Machine, n.registers = loaded.registers → n.memory = loaded.memory →
        n.index = m.index → ∃ k, n.execute store = .ok (k, .running) ∧ k.memory = m.memory := by
  intro store load
  have hstore : store = .storeRegisters x :=
    decodeWord_encode (i := .storeRegisters x) (by nofun) trivial
  have hload : load = .loadRegisters x :=
    decodeWord_encode (i := .loadRegisters x) (by nofun) trivial
  rw [hstore, hload]
  obtain ⟨stored, hs, hstored⟩ := m.execute_storeRegisters x
  obtain ⟨loaded, hl, hloaded⟩ := m.execute_loadRegisters x
  exact ⟨stored, loaded, hs, hstored, hl, hloaded,
    fun n hmemory hindex => hstored.undone hmemory hindex,
    fun n hregisters hmemory hindex => hloaded.undone hregisters hmemory hindex⟩

/-- A block whose cells are the last of memory and the first, at the last index of all; in between,
the registers are cleared. -/
theorem transfers_undo_wrapped :
    let m := { powerOn ⟨0, 0⟩ with index := 0xFFFF, registers := Vector.replicate 16 7 }
    ∃ stored, m.execute (decodeWord 0xF155) = .ok (stored, .running) ∧
      let n := { stored with index := 0xFFFF, registers := Cells.zero 16 }
      n.memory = stored.memory ∧ n.index = m.index ∧
        ∃ k, n.execute (decodeWord 0xF165) = .ok (k, .running) ∧
          ∀ r ≤ (1 : Register), k.register r = m.register r := by
  intro m
  obtain ⟨stored, _, hstored, -, -, -, hback, -⟩ := transfers_undo m 1
  exact ⟨stored, hstored, rfl, rfl,
    hback { stored with index := 0xFFFF, registers := Cells.zero 16 } rfl rfl⟩

/-- **The decimal digits of a register load as its value.** The word `FX33` stores them, and after
it `F265` loads them into the first three registers, of which `X` may be one. Only these registers,
the three cells, the index and the program counter change. Every integer has three decimal digits
by its low byte. -/
theorem digits_reload (m : Machine) (x : Register) :
    let store := decodeWord (Instruction.word 0xF (x.val * 0x100 + 0x33))
    let load := decodeWord 0xF265
    (∃ n k, m.execute store = .ok (n, .running) ∧ n.execute load = .ok (k, .running) ∧
      (∀ r ≤ (2 : Register), (k.register r).toNat ≤ 9) ∧
      100 * (k.register 0).toNat + 10 * (k.register 1).toNat + (k.register 2).toNat =
        (m.register x).toNat ∧
      (∀ r, (2 : Register) < r → k.register r = m.register r) ∧
      (∀ a ∉ block m.index 2, k.memory.get a = m.memory.get a) ∧
      k.index.toNat = (m.index.toNat + 3) % 65536 ∧
      k = { m with registers := k.registers, memory := k.memory, index := k.index, pc := k.pc }) ∧
    ∀ v : Int, let d := Digits.ofInt v
      d.hundreds ≤ 9 ∧ d.tens ≤ 9 ∧ d.ones ≤ 9 ∧
        ((100 * d.hundreds + 10 * d.tens + d.ones : Nat) : Int) = v % 256 := by
  intro store load
  refine ⟨?_, Digits.ofInt_value⟩
  have hstore : store = .storeDigits x :=
    decodeWord_encode (i := .storeDigits x) (by nofun) trivial
  obtain ⟨n, hn, hstored⟩ := m.execute_storeDigits x
  obtain ⟨k, hk, hloaded⟩ := n.execute_loadRegisters 2
  have hindex : n.index = m.index := by rw [hstored.rest]
  have hmemory : k.memory = n.memory := by rw [hloaded.rest]
  refine ⟨n, k, hstore ▸ hn, hk, fun r hr => ?_, hstored.reloaded_value hloaded, fun r hr => ?_,
    fun a ha => ?_, ?_, ?_⟩
  · rw [hstored.reloaded hloaded hr]
    exact Digits.getD_le _ r
  · rw [hloaded.kept r hr, hstored.rest]
    rfl
  · rw [hmemory, hstored.kept a ha]
  · rw [hloaded.index, hindex]
    rfl
  · rw [hloaded.rest, hstored.rest]

end Machine

end Chip8
