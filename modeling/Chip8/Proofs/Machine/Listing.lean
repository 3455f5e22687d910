import Chip8.Proofs.Instruction.Assembly
import Chip8.Proofs.Instruction.Encoding
import Chip8.Proofs.Machine.Memory
import Chip8.Proofs.Machine.PowerOn

/-!
# Programs and listings

**Programs of words** (`Program.ofWords`). Most programs are the bytes of a list of words, the high
byte of each first. Two neighbouring bytes, the first at an even place, make up a word again.

**Loading** (`ProgramLoaded`). Memory holds the program from the first instruction on, and outside
it what it held before; nothing else changes.

**Rows and cycles** (`fetch_at`). A listing counts its addresses on as integers, a cycle starts from
a counter of sixteen bits, and both reduce an address only where they look up its two bytes. They
find the same word if their addresses have the same remainder by memory's length, whatever the sign
and however close to the end of memory or of the machine's arithmetic.

**Texts of rows** (`exists_text_decodeWord`). A decoded height has one digit, so every row has a text.

**There and back** (`loadProgram_disassemble`). The listing of a loaded program shows its words and
their instructions, and a cycle at a row's address executes what the row shows.
-/

namespace Chip8

/-! ## Programs of words -/

/-- The bytes of a word, the high one first. -/
def wordBytes (w : UInt16) : List UInt8 := [(w >>> 8).toUInt8, w.toUInt8]

/-- The bytes of some words one after another. -/
def Program.ofWords (ws : List UInt16) : Program := ws.flatMap wordBytes

namespace Program

theorem length_ofWords (ws : List UInt16) : (ofWords ws).length = 2 * ws.length := by
  induction ws with
  | nil => rfl
  | cons w ws ih =>
    rw [ofWords, List.flatMap_cons, List.length_append, ← ofWords, ih, List.length_cons]
    simp only [wordBytes, List.length_cons, List.length_nil]
    omega

/-- The two bytes of a word are at twice its place. -/
theorem getElem?_ofWords (ws : List UInt16) (i : Nat) :
    (ofWords ws)[2 * i]? = ws[i]?.map (fun w : UInt16 => (w >>> 8).toUInt8) ∧
      (ofWords ws)[2 * i + 1]? = ws[i]?.map UInt16.toUInt8 := by
  induction ws generalizing i with
  | nil => exact ⟨rfl, rfl⟩
  | cons w ws ih =>
    cases i with
    | zero => exact ⟨rfl, rfl⟩
    | succ i => exact ih i

end Program

/-- A loop whose steps all succeed succeeds. -/
theorem mapM_eq_ok {ε α β : Type} {f : α → Except ε β} {g : α → β} {l : List α}
    (h : ∀ a ∈ l, f a = .ok (g a)) : l.mapM f = .ok (l.map g) := by
  induction l with
  | nil => rfl
  | cons a l ih =>
    rw [List.forall_mem_cons] at h
    rw [List.mapM_cons, h.1, ih h.2]
    rfl

namespace Machine

/-! ## Loading -/

/-- What loading a program makes of a machine. -/
structure ProgramLoaded (m : Machine) (p : Program) (n : Machine) : Prop where
  loaded : ∀ (k : Nat) (hk : k < p.length) (a : Fin 4096), a.val = 0x200 + k →
    n.memory.get a = p[k]
  kept : ∀ a : Fin 4096, a.val < 0x200 ∨ 0x200 + p.length ≤ a.val →
    n.memory.get a = m.memory.get a
  rest : n = { m with memory := n.memory }

theorem loadProgram_error_iff (m : Machine) (p : Program) :
    m.loadProgram p = .error (.programTooLong p.length) ↔ 3584 < p.length := by
  by_cases h : p.length ≤ longestProgram
  · rw [loadProgram_eq_ok h]
    exact iff_of_false nofun (not_lt.2 h)
  · exact iff_of_true (if_pos (not_le.1 h)) (not_le.1 h)

theorem programLoaded_loadProgram (m : Machine) {p : Program} (h : p.length ≤ 3584) :
    ∃ n, m.loadProgram p = .ok n ∧ ProgramLoaded m p n := by
  have hcell (a : Fin 4096) := Cells.getElem_overwrite m.memory programStart p a.isLt
  refine ⟨_, loadProgram_eq_ok h, fun k hk a ha => ?_, fun a ha => ?_, rfl⟩
  · have hplace : a.val - programStart = k := by
      rw [programStart]
      omega
    refine (hcell a).trans ((dif_pos ?_).trans ?_)
    · rw [programStart]
      omega
    · simp only [hplace]
  · refine (hcell a).trans (dif_neg ?_)
    rw [programStart]
    omega

/-- A byte of a loaded program. -/
theorem ProgramLoaded.byte {m n : Machine} {p : Program} (h : ProgramLoaded m p n) {k : Nat}
    {b : UInt8} {a : Fin 4096} (hb : p[k]? = some b) (ha : a.val = 0x200 + k) :
    n.memory.get a = b := by
  obtain ⟨hk, rfl⟩ := List.getElem?_eq_some_iff.1 hb
  exact h.loaded k hk a ha

/-! ## Words at addresses -/

/-- The word that a cycle at an address looks up. -/
theorem word_at (m : Machine) {a : Int} (h : -2147483648 ≤ a ∧ a ≤ 2147483647) :
    m.word (widenWord (UInt16.ofInt (a % 4096))) = m.word (Int32.ofInt a) := by
  have hvalue : (Int32.ofInt a).toInt = a :=
    Int32.toInt_ofInt_of_le h.1 (Int.lt_add_one_iff.2 h.2)
  refine word_congr m ?_
  simp only [hvalue, toInt_widenWord, UInt16.ofInt, UInt16.toNat_ofNat']
  omega

/-- **A cycle at an address executes the word there.** -/
theorem fetch_at (m : Machine) {a : Int} (h : -2147483648 ≤ a ∧ a ≤ 2147483647) :
    ({ m with pc := UInt16.ofInt (a % 4096) } : Machine).fetch =
      Instruction.decodeWord (m.word (Int32.ofInt a)) :=
  congrArg Instruction.decodeWord (m.word_at h)

section

variable {m n : Machine} {ws : List UInt16} {i : Nat}

/-- A word of a loaded program. -/
theorem ProgramLoaded.word_eq (h : ProgramLoaded m (.ofWords ws) n) (hlength : ws.length ≤ 1792)
    (hi : i < ws.length) : n.word (Int32.ofInt (0x200 + 2 * i)) = ws[i] := by
  set a := Int32.ofInt (0x200 + 2 * i)
  have hvalue : a.toInt = 0x200 + 2 * i := Int32.toInt_ofInt_of_le (by omega) (by omega)
  have hhigh := masked_val a
  have hlow := masked_add_one a
  obtain ⟨hfirst, hsecond⟩ := Program.getElem?_ofWords ws i
  rw [List.getElem?_eq_getElem hi] at hfirst hsecond
  calc n.word a = bytesToWord (n.memory.get (masked a)) (n.memory.get (masked (a + 1))) :=
        n.word_eq_loads a
    _ = bytesToWord (ws[i] >>> 8).toUInt8 ws[i].toUInt8 := by
      rw [h.byte hfirst (by omega), h.byte hsecond (by omega)]
    _ = ws[i] := bytesToWord_split _

theorem ProgramLoaded.fetch_eq (h : ProgramLoaded m (.ofWords ws) n) (hlength : ws.length ≤ 1792)
    (hi : i < ws.length) :
    ({ n with pc := UInt16.ofNat (0x200 + 2 * i) } : Machine).fetch =
      Instruction.decodeWord ws[i] := by
  have hpc : UInt16.ofNat (0x200 + 2 * i) = UInt16.ofInt ((0x200 + 2 * i : Int) % 4096) := by
    apply UInt16.toNat_inj.1
    simp only [UInt16.ofInt, UInt16.toNat_ofNat']
    omega
  rw [hpc, n.fetch_at (by omega), h.word_eq hlength hi]

end

/-! ## Listing -/

/-- The instruction of a word has a text. -/
theorem exists_text_decodeWord (w : UInt16) : ∃ s, (Instruction.decodeWord w).text = .ok s := by
  rw [Instruction.exists_text_iff]
  intro x y height hdraw
  have hfits := Instruction.fitsWord_decodeWord w
  rw [hdraw] at hfits
  -- The height in a word has one hexadecimal digit, and so at most two decimal ones.
  have hdigits : 10 ^ 2 ≤ 10 ^ Numeral.longest := Nat.pow_le_pow_right (by decide) (by decide)
  have hheight : 0 ≤ height ∧ height < 0x10 := hfits
  omega

/-- The rows of addresses that all fit the machine's arithmetic. -/
theorem disassemble_eq_ok (m : Machine) {start count : Int}
    (h : ∀ i < count.toNat, -2147483648 ≤ start + 2 * i ∧ start + 2 * i ≤ 2147483647) :
    m.disassemble start count = .ok ((List.range count.toNat).map fun i : Nat =>
      ⟨start + 2 * i, m.word (Int32.ofInt (start + 2 * i))⟩) := by
  refine mapM_eq_ok fun i hi => ?_
  have haddress : start + (i * wordSize : Nat) = start + 2 * i := by
    rw [wordSize]
    push_cast
    ring
  rw [listingRow, haddress, narrow_eq_ok (h i (List.mem_range.1 hi))]
  rfl

/-- The rows of a loaded program. -/
theorem ProgramLoaded.disassemble_eq {m n : Machine} {ws : List UInt16}
    (h : ProgramLoaded m (.ofWords ws) n) (hlength : ws.length ≤ 1792) :
    ∃ rows, n.disassemble 0x200 ws.length = .ok rows ∧
      rows.map (fun r => (r.address, r.word, r.instruction.text)) =
        List.ofFn fun i : Fin ws.length =>
          (0x200 + 2 * (i.val : Int), ws[i], (Instruction.decodeWord ws[i]).text) := by
  refine ⟨_, disassemble_eq_ok n fun i hi => ?_, List.ext_getElem (by simp) fun i hi _ => ?_⟩
  · rw [Int.toNat_natCast] at hi
    omega
  · simp only [List.length_map, List.length_range, Int.toNat_natCast] at hi
    simp only [List.getElem_map, List.getElem_range, List.getElem_ofFn, ListingRow.instruction,
      h.word_eq hlength hi]
    rfl

/-- **Loading and listing are inverse.** A program is refused exactly if it is longer than 3584
bytes, and loading any other changes its cells of memory and no more. The listing of a program of
words is their addresses, the words, and the text of their instructions in order, and these are
fetched at their addresses. From any start, each row of a listing shows the word that a cycle looks
up, and the instruction it executes, with the counter at the row's address, wrapped. The instruction
of a word always has a text. -/
theorem loadProgram_disassemble :
    (∀ (m : Machine) (p : Program),
      (m.loadProgram p = .error (.programTooLong p.length) ↔ 3584 < p.length) ∧
      (p.length ≤ 3584 → ∃ n, m.loadProgram p = .ok n ∧ ProgramLoaded m p n)) ∧
    (∀ (m : Machine) (ws : List UInt16), ws.length ≤ 1792 →
      ∃ n rows, m.loadProgram (.ofWords ws) = .ok n ∧ n.disassemble 0x200 ws.length = .ok rows ∧
        rows.map (fun r => (r.address, r.word, r.instruction.text)) =
          (List.ofFn fun i : Fin ws.length =>
            (0x200 + 2 * (i.val : Int), ws[i], (Instruction.decodeWord ws[i]).text)) ∧
        ∀ (i : Nat) (hi : i < ws.length),
          { n with pc := UInt16.ofNat (0x200 + 2 * i) }.fetch = Instruction.decodeWord ws[i]) ∧
    (∀ (m : Machine) (start count : Int),
      (∀ i < count.toNat, -2147483648 ≤ start + 2 * i ∧ start + 2 * i ≤ 2147483647) →
      ∃ rows, m.disassemble start count = .ok rows ∧ rows.length = count.toNat ∧
        ∀ (i : Nat) (hi : i < rows.length),
          let n := { m with pc := UInt16.ofInt ((start + 2 * i) % 4096) }
          rows[i].address = start + 2 * i ∧ rows[i].word = n.word (widenWord n.pc) ∧
            n.fetch = rows[i].instruction ∧ n.tick = n.execute rows[i].instruction) ∧
    ∀ w, ∃ s, (Instruction.decodeWord w).text = .ok s := by
  refine ⟨fun m p => ⟨m.loadProgram_error_iff p, m.programLoaded_loadProgram⟩,
    fun m ws hlength => ?_, fun m start count hfits => ?_, exists_text_decodeWord⟩
  · have hfits : (Program.ofWords ws).length ≤ 3584 := by
      rw [Program.length_ofWords]
      omega
    obtain ⟨n, hn, hloaded⟩ := m.programLoaded_loadProgram hfits
    obtain ⟨rows, hrows, hshown⟩ := hloaded.disassemble_eq hlength
    exact ⟨n, rows, hn, hrows, hshown, fun i hi => hloaded.fetch_eq hlength hi⟩
  · refine ⟨_, m.disassemble_eq_ok hfits, by simp, fun i hi => ?_⟩
    simp only [List.length_map, List.length_range] at hi
    have hfetch := m.fetch_at (hfits i hi)
    simp only [List.getElem_map, List.getElem_range]
    refine ⟨trivial, (m.word_at (hfits i hi)).symm, hfetch, ?_⟩
    rw [tick, hfetch, ListingRow.instruction]

/-- Two words, and a row at the last address of the machine's arithmetic. -/
theorem loadProgram_disassemble_last :
    let m := powerOn ⟨0, 0⟩
    let ws : List UInt16 := [0x6001, 0x1200]
    ws.length ≤ 1792 ∧
      (∃ n rows, m.loadProgram (.ofWords ws) = .ok n ∧ n.disassemble 0x200 2 = .ok rows ∧
        rows.map (fun r => (r.address, r.word, r.instruction.text)) =
          [(0x200, 0x6001, (Instruction.loadByte 0 1).text),
            (0x202, 0x1200, (Instruction.jump 0x200).text)]) ∧
      ∃ rows, m.disassemble 2147483647 1 = .ok rows ∧
        ∀ i (_ : i < rows.length), { m with pc := 0xFFF }.fetch = rows[i].instruction := by
  intro m ws
  have hlength : ws.length ≤ 1792 := by decide
  obtain ⟨-, hwords, hrows, -⟩ := loadProgram_disassemble
  obtain ⟨n, rows, hn, hlisted, hshown, -⟩ := hwords m ws hlength
  obtain ⟨rows', hlisted', hlength', hfetch⟩ := hrows m 2147483647 1 (by decide)
  refine ⟨hlength, ⟨n, rows, hn, hlisted, hshown.trans ?_⟩, rows', hlisted', fun i hi => ?_⟩
  · have hload : Instruction.decodeWord 0x6001 = .loadByte 0 1 := by decide
    have hjump : Instruction.decodeWord 0x1200 = .jump 0x200 := by decide
    rw [← hload, ← hjump]
    rfl
  · obtain rfl : i = 0 := by
      have : (1 : Int).toNat = 1 := rfl
      omega
    exact (hfetch 0 hi).2.2.1

end Machine

end Chip8
