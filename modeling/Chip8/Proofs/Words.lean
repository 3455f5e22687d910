import Chip8.Machine.Program
import Mathlib

/-!
# Machine numbers as integers

The machine computes on words that wrap, and its laws are about integers. Each operation is
read here through `toInt` or `toNat`.

**Narrowing** (`narrow_eq_ok`). An integer enters the arithmetic if it fits.

**Remainders.** A 32-bit word wraps at a multiple of every smaller power of two, so remainders by
these are those of the exact result (`toInt_add_emod`, `toInt_emod`). Addresses, screen
coordinates and bytes are such remainders (`masked_val`, `toNat_lowByte`).

**Words of two bytes** (`toNat_bytesToWord`, `bytesToWord_split`).

**Bits of a word** (`shiftRight_and_one`, `testBit_lowByte`). The machine shifts a word and looks at
its last bit, or takes the low byte, which has the bits of the integer, of a negative one too.

**Shifting** (`toInt_widen_shiftRight`, `toInt_shiftOut`). A shift to the right within a byte is that
of its number; shifting out is multiplication by a power of two, truncated to a byte.
-/

namespace Chip8

/-! ## Narrowing -/

theorem narrow_eq_ok {n : Int} (h : -2147483648 ≤ n ∧ n ≤ 2147483647) :
    narrow n = .ok (Int32.ofInt n) := by
  rw [narrow, narrow?, if_pos h]

theorem narrow_eq_error {n : Int} (h : ¬ (-2147483648 ≤ n ∧ n ≤ 2147483647)) :
    narrow n = .error .outOfRange := by
  rw [narrow, narrow?, if_neg h]

/-! ## Remainders -/

theorem emod_bmod_of_dvd {a : Int} {n k : Nat} (h : (k : Int) ∣ n) : a.bmod n % k = a % k := by
  rw [Int.bmod_def]
  split
  · rw [Int.emod_emod_of_dvd _ h]
  · rw [Int.sub_emod, Int.emod_emod_of_dvd _ h, Int.emod_eq_zero_of_dvd h, sub_zero, Int.emod_emod]

theorem toInt_emod (w : Int32) {k : Nat} (h : (k : Int) ∣ (2 ^ 32 : Nat)) :
    w.toInt % k = (w.toBitVec.toNat : Int) % k := by
  rw [Int32.toInt, BitVec.toInt_eq_toNat_bmod]
  exact emod_bmod_of_dvd h

theorem toInt_add_emod (v w : Int32) {k : Nat} (h : (k : Int) ∣ (2 ^ 32 : Nat)) :
    (v + w).toInt % k = (v.toInt + w.toInt) % k := by
  rw [Int32.toInt_add]
  exact emod_bmod_of_dvd h

theorem toInt_ofNat_emod (n : Nat) {k : Nat} (h : (k : Int) ∣ (2 ^ 32 : Nat)) :
    (Int32.ofNat n).toInt % k = n % k := by
  rw [Int32.toInt_ofNat']
  exact emod_bmod_of_dvd h

@[simp] theorem toInt_widen (b : UInt8) : (widen b).toInt = b.toNat :=
  Int32.toInt_ofNat_of_lt (by have := b.toNat_lt; omega)

@[simp] theorem toInt_widenWord (w : UInt16) : (widenWord w).toInt = w.toNat :=
  Int32.toInt_ofNat_of_lt (by have := w.toNat_lt; omega)

theorem toNat_lowByte (w : Int32) : ((lowByte w).toNat : Int) = w.toInt % 256 := by
  simp only [lowByte, UInt8.ofInt, UInt8.toNat_ofNat']
  omega

/-- A word that is a byte already loses nothing. -/
theorem toNat_lowByte_of_lt {w : Int32} {n : Nat} (hw : w.toInt = n) (hn : n < 256) :
    (lowByte w).toNat = n := by
  have h := toNat_lowByte w
  omega

@[simp] theorem lowByte_widen (b : UInt8) : lowByte (widen b) = b :=
  UInt8.toNat_inj.1 (toNat_lowByte_of_lt (toInt_widen b) b.toNat_lt)

/-! ## Addresses -/

theorem masked_val (a : Int32) : ((masked a).val : Int) = a.toInt % 4096 := by
  have h : a.toInt % 4096 = (a.toBitVec.toNat : Int) % 4096 := toInt_emod a (by decide)
  have hm := Nat.and_two_pow_sub_one_eq_mod a.toBitVec.toNat 12
  simp only [masked, BitVec.toNat_and, BitVec.toNat_ofNat]
  norm_num at hm ⊢
  omega

theorem toInt_and_address (a : Int32) : (a &&& 0xFFF).toInt = (masked a).val := by
  have hb : (a &&& 0xFFF).toBitVec.toNat = (masked a).val := rfl
  have hlt := (masked a).isLt
  rw [Int32.toInt, BitVec.toInt_eq_toNat_of_lt (by omega), hb]

theorem wrapped_val (a : Int32) : ((wrapped a).val : Int) = a.toInt % 4096 := by
  simp only [wrapped]
  omega

namespace Machine

theorem toNat_jump_pc (m : Machine) (a : Int32) : ((m.jump a).pc.toNat : Int) = a.toInt % 4096 := by
  have h := masked_val a
  have := (masked a).isLt
  simp only [jump, UInt16.toNat_ofNat']
  omega

theorem toNat_advance (m : Machine) (amount : Int32) :
    ((m.advance amount).pc.toNat : Int) = (m.pc.toNat + amount.toInt) % 4096 := by
  have hsum := toInt_add_emod (widenWord m.pc) amount (k := 4096) (by decide)
  rw [toInt_widenWord] at hsum
  rw [advance, toNat_jump_pc]
  exact hsum

theorem toNat_advance_pc (m : Machine) : (m.advance 2).pc.toNat = (m.pc.toNat + 2) % 4096 := by
  have h : ((m.advance 2).pc.toNat : Int) = (m.pc.toNat + 2) % 4096 := m.toNat_advance 2
  exact_mod_cast h

end Machine

/-! ## Words of two bytes -/

theorem toNat_bytesToWord (high low : UInt8) :
    (bytesToWord high low).toNat = high.toNat * 256 + low.toNat := by
  have hh := high.toNat_lt
  have hl := low.toNat_lt
  have h8 : (8 : UInt16).toNat % 16 = 8 := rfl
  simp only [bytesToWord, UInt16.toNat_or, UInt16.toNat_shiftLeft, UInt8.toNat_toUInt16]
  rw [h8, Nat.shiftLeft_eq, Nat.mod_eq_of_lt (by omega), Nat.mul_comm,
    ← Nat.two_pow_add_eq_or_of_lt (by omega)]

/-- A word is put together again from its two bytes. -/
@[simp] theorem bytesToWord_split (v : UInt16) :
    bytesToWord (v >>> 8).toUInt8 v.toUInt8 = v := by
  have hv := v.toNat_lt
  have h8 : (8 : UInt16).toNat % 16 = 8 := rfl
  apply UInt16.toNat_inj.1
  rw [toNat_bytesToWord, UInt16.toNat_toUInt8, UInt16.toNat_toUInt8, UInt16.toNat_shiftRight, h8,
    Nat.shiftRight_eq_div_pow]
  omega

/-! ## Bits of a word -/

theorem shiftRight_and_one (w : UInt16) {k : Nat} (hk : k < 16) :
    ((w >>> UInt16.ofNat k) &&& 1 == 1) = w.toNat.testBit k := by
  have hbit : ((w >>> UInt16.ofNat k) &&& 1).toNat = w.toNat / 2 ^ k % 2 := by
    rw [UInt16.toNat_and, UInt16.toNat_shiftRight, UInt16.toNat_ofNat_of_lt' (by rw [UInt16.size]; omega),
      Nat.mod_eq_of_lt hk, Nat.shiftRight_eq_div_pow]
    exact Nat.and_one_is_mod _
  rw [Nat.testBit_eq_decide_div_mod_eq, ← hbit, beq_eq_decide,
    decide_eq_decide.2 UInt16.toNat_inj.symm]
  rfl

/-- The bits of a remainder are the integer's own. -/
theorem testBit_emod_two_pow (n : Int) {i k : Nat} (h : i < k) :
    (n % (2 ^ k : Nat)).toNat.testBit i = n.testBit i := by
  cases n with
  | ofNat m =>
    show (m % 2 ^ k).testBit i = m.testBit i
    rw [Nat.testBit_mod_two_pow, decide_eq_true h, Bool.true_and]
  | negSucc m =>
    -- A negative integer has the bits of the natural number below it, complemented.
    have hlt : m % 2 ^ k < 2 ^ k := Nat.mod_lt _ (Nat.two_pow_pos k)
    have hcomplement : (Int.negSucc m % (2 ^ k : Nat)).toNat = 2 ^ k - (m % 2 ^ k + 1) := by
      rw [Int.negSucc_emod m (Int.natCast_pos.2 (Nat.two_pow_pos k))]
      omega
    rw [hcomplement, Nat.testBit_two_pow_sub_succ hlt, Nat.testBit_mod_two_pow, decide_eq_true h,
      Bool.true_and, Bool.true_and]
    rfl

theorem testBit_lowByte (w : Int32) {i : Nat} (h : i < 8) :
    (lowByte w).toNat.testBit i = w.toInt.testBit i := by
  rw [← testBit_emod_two_pow w.toInt h, ← Int.toNat_natCast (lowByte w).toNat, toNat_lowByte]
  rfl

/-! ## Shifting -/

theorem toInt_widen_shiftRight (b : UInt8) {k : Nat} (h : k < 8) :
    (widen b >>> Int32.ofNat k).toInt = (b.toNat >>> k : Nat) := by
  have hshift : (widen b >>> Int32.ofNat k).toBitVec = (widen b).toBitVec.sshiftRight k := by
    rw [Int32.toBitVec_shiftRight]
    interval_cases k <;> rfl
  rw [Int32.toInt, hshift, BitVec.toInt_sshiftRight]
  show (widen b).toInt >>> k = _
  rw [toInt_widen]
  rfl

theorem toInt_and_byte (w : Int32) : (w &&& 0xFF).toInt = w.toInt % 256 := by
  have h : w.toInt % 256 = (w.toBitVec.toNat : Int) % 256 := toInt_emod w (by decide)
  have hb : (w &&& 0xFF).toBitVec.toNat = w.toBitVec.toNat % 256 := by
    simpa using Nat.and_two_pow_sub_one_eq_mod w.toBitVec.toNat 8
  rw [Int32.toInt, BitVec.toInt_eq_toNat_of_lt (by omega)]
  omega

theorem toInt_shiftLeft_emod (v : Int32) {k : Nat} (h : k < 8) :
    (v <<< Int32.ofNat k).toInt % 256 = v.toInt * 2 ^ k % 256 := by
  have hk : (v <<< Int32.ofNat k).toBitVec = v.toBitVec <<< k := by
    rw [Int32.toBitVec_shiftLeft]
    interval_cases k <;> rfl
  have hn : (v.toBitVec.toNat : Int) ≡ v.toInt [ZMOD 256] := (toInt_emod v (by decide)).symm
  rw [Int32.toInt, hk, BitVec.toInt_shiftLeft, Nat.shiftLeft_eq]
  calc ((v.toBitVec.toNat * 2 ^ k : Nat) : Int).bmod (2 ^ 32) % 256
      = ((v.toBitVec.toNat * 2 ^ k : Nat) : Int) % 256 := emod_bmod_of_dvd (by decide)
    _ = (v.toBitVec.toNat * 2 ^ k : Int) % 256 := by push_cast; rfl
    _ = v.toInt * 2 ^ k % 256 := hn.mul_right _

theorem eq_and_of_and_not_eq_zero {w : Nat} {x m : BitVec w} (h : x &&& ~~~m = 0#w) :
    x = x &&& m := by
  ext i hi
  simpa [hi] using congrArg (·.getLsbD i) h

/-- A shift by eight or more has a bit outside the low three, where the test looks. -/
theorem shiftOut_of_le {v s : Int32} (h : 8 ≤ s.toInt) : shiftOut v s = 0 := by
  rw [shiftOut, if_pos]
  intro hs
  have hb : s.toBitVec &&& ~~~7#32 = 0#32 := by simpa using congrArg Int32.toBitVec hs
  have hle : s.toBitVec.toNat ≤ 7 := by
    rw [eq_and_of_and_not_eq_zero hb, BitVec.toNat_and]
    exact Nat.and_le_right
  have := toInt_emod s (k := 2 ^ 32) (dvd_refl _)
  have := s.toInt_lt
  omega

theorem shiftOut_of_lt (v : Int32) {k : Nat} (h : k < 8) :
    shiftOut v (Int32.ofNat k) = (v <<< Int32.ofNat k) &&& 0xFF := by
  rw [shiftOut]
  interval_cases k <;> rfl

/-- **Shifting out multiplies, and keeps the low byte.** -/
theorem toInt_shiftOut (v s : Int32) (h : 0 ≤ s.toInt) :
    (shiftOut v s).toInt = v.toInt * 2 ^ s.toInt.toNat % 256 := by
  -- From eight on the power is a multiple of 256; below, the machine's own shift is exact.
  by_cases h8 : 8 ≤ s.toInt
  · obtain ⟨k, hk⟩ : ∃ k, s.toInt.toNat = 8 + k := ⟨s.toInt.toNat - 8, by omega⟩
    rw [shiftOut_of_le h8, hk, pow_add]
    have : v.toInt * (2 ^ 8 * 2 ^ k) = 256 * (v.toInt * 2 ^ k) := by ring
    rw [this, Int.mul_emod_right]
    rfl
  · obtain ⟨k, hk⟩ : ∃ k : Nat, s = Int32.ofNat k ∧ k < 8 :=
      ⟨s.toInt.toNat, by apply Int32.toInt_inj.1; rw [Int32.toInt_ofNat_of_lt] <;> omega, by omega⟩
    obtain ⟨rfl, hk⟩ := hk
    rw [shiftOut_of_lt v hk, toInt_and_byte, toInt_shiftLeft_emod v hk,
      Int32.toInt_ofNat_of_lt (by omega)]
    rfl

end Chip8
