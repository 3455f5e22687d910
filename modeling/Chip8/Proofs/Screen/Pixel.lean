import Chip8.Proofs.Cells
import Chip8.Screen

/-!
# The screen pixel by pixel

A packed screen is read here as lit and dark pixels, `px` a column and `py` a line.

**One byte** (`marks`). A part of a row, laid on a byte-column, marks the pixels of that column
where it has a bit, the highest bit at the left. Flipping it changes exactly the marked pixels of
its line (`pixel_flip`), and the collision says that one of them was lit (`flip_hit_iff`). Screens
with the same pixels are equal (`ext_pixel`).

**One row** (`covers`). The two parts of an eight-pixel row mark disjoint pixels, and together
those at a distance below eight from its left end, going right and around the edge, where its
byte has a bit (`marks_parts`). So a row flips what it covers (`pixel_drawRow`,
`drawRow_hit_iff`).
-/

namespace Chip8.Screen

/-! ## One byte -/

/-- The byte-column of a column. -/
def columnOf (px : Fin 64) : Fin 8 := ⟨px / 8, by omega⟩

/-- A part of a row on a byte-column has a bit at a column. -/
def marks (column : Fin 8) (part : UInt8) (px : Fin 64) : Bool :=
  columnOf px = column && part.toNat.testBit (7 - px % 8)

theorem place_inj {l l' : Fin 32} {c c' : Fin 8} :
    place l c = place l' c' ↔ l = l' ∧ c = c' := by
  simp only [place, Fin.ext_iff]
  omega

/-- A mask with one bit tells whether a byte has that bit, counted from the left. -/
theorem and_mask_ne_zero (b : UInt8) {j : Nat} (hj : j < 8) :
    (b &&& (0x80 >>> UInt8.ofNat j) != 0) = b.toNat.testBit (7 - j) := by
  have hmask : ((0x80 : UInt8) >>> UInt8.ofNat j).toNat = 2 ^ (7 - j) := by
    interval_cases j <;> rfl
  rw [Bool.eq_iff_iff, bne_iff_ne, ne_eq, ← UInt8.toNat_inj, UInt8.toNat_and, hmask,
    Nat.and_two_pow]
  cases b.toNat.testBit (7 - j) <;> simp

theorem pixel_eq_testBit (s : Screen) (px : Fin 64) (py : Fin 32) :
    s.pixel px py = s[place py (columnOf px)].toNat.testBit (7 - px % 8) := by
  have hindex : byteIndex px py = ((place py (columnOf px)).val : Nat) := by
    simp only [byteIndex, place, columnOf]
    omega
  have hbit : ((px : Int) % 8).toNat = px % 8 := by omega
  rw [pixel, hindex, Cells.read_natCast _ (place py (columnOf px)).isLt, hbit,
    and_mask_ne_zero _ (by omega)]
  rfl

/-- **Flipping a part changes the pixels it marks in its line.** -/
theorem pixel_flip (s : Screen) (l : Fin 32) (c : Fin 8) (part : UInt8) (px : Fin 64)
    (py : Fin 32) :
    (s.flip (place l c) part).1.pixel px py = (s.pixel px py ^^ (py = l && marks c part px)) := by
  rw [pixel_eq_testBit, pixel_eq_testBit, flip, Fin.getElem_fin, Vector.getElem_set]
  by_cases h : py = l ∧ columnOf px = c
  · obtain ⟨rfl, rfl⟩ := h
    simp [marks, Nat.testBit_xor]
  · have hne : (place l c).val ≠ (place py (columnOf px)).val := by
      rw [ne_eq, ← Fin.ext_iff, place_inj]
      exact fun ⟨hl, hc⟩ => h ⟨hl.symm, hc.symm⟩
    rw [if_neg hne]
    by_cases hl : py = l <;> simp_all [marks]

/-- Every bit of a byte-column is a pixel. -/
theorem exists_column (c : Fin 8) {i : Nat} (hi : i < 8) :
    ∃ px : Fin 64, columnOf px = c ∧ 7 - px.val % 8 = i := by
  refine ⟨⟨8 * c + (7 - i), by omega⟩, Fin.ext ?_, ?_⟩
  · simp only [columnOf]
    omega
  · simp only
    omega

theorem testBit_eq_false (b : UInt8) {i : Nat} (h : 8 ≤ i) : b.toNat.testBit i = false :=
  Nat.testBit_lt_two_pow (Nat.lt_of_lt_of_le b.toNat_lt (Nat.pow_le_pow_right (by decide) h))

theorem flip_hit_iff (s : Screen) (l : Fin 32) (c : Fin 8) (part : UInt8) :
    (s.flip (place l c) part).2 = true ↔ ∃ px, marks c part px = true ∧ s.pixel px l = true := by
  simp only [flip, bne_iff_ne, ne_eq, ← UInt8.toNat_inj, UInt8.toNat_and]
  constructor
  · intro h
    obtain ⟨i, hi⟩ := Nat.exists_testBit_of_ne_zero h
    rw [Nat.testBit_and, Bool.and_eq_true] at hi
    -- A byte has no bit from the eighth on, so the common bit is a pixel.
    have h8 : i < 8 := by
      by_contra hge
      rw [testBit_eq_false part (by omega)] at hi
      cases hi.2
    obtain ⟨px, rfl, hbit⟩ := exists_column c h8
    refine ⟨px, ?_, ?_⟩
    · rw [marks, hbit, hi.2, decide_eq_true rfl]
      rfl
    · rw [pixel_eq_testBit, hbit]
      exact hi.1
  · rintro ⟨px, hmark, hlit⟩ h0
    rw [marks, Bool.and_eq_true, decide_eq_true_iff] at hmark
    obtain ⟨rfl, hbit⟩ := hmark
    rw [pixel_eq_testBit] at hlit
    have hand := congrArg (·.testBit (7 - px.val % 8)) h0
    simp only [Nat.testBit_and] at hand
    rw [hlit, hbit] at hand
    simp at hand

/-- Every bit of every byte is a pixel. -/
theorem exists_pixel {i bit : Nat} (hi : i < 256) (hbit : bit < 8) :
    ∃ (px : Fin 64) (py : Fin 32), (place py (columnOf px)).val = i ∧ 7 - px.val % 8 = bit := by
  obtain ⟨px, hcolumn, hpx⟩ := exists_column ⟨i % 8, by omega⟩ hbit
  refine ⟨px, ⟨i / 8, by omega⟩, ?_, hpx⟩
  rw [hcolumn]
  exact Nat.div_add_mod' i 8

/-- A screen is its pixels. -/
theorem ext_pixel {s t : Screen}
    (h : ∀ (px : Fin 64) (py : Fin 32), s.pixel px py = t.pixel px py) : s = t := by
  refine Vector.ext fun i hi => UInt8.toNat_inj.1 (Nat.eq_of_testBit_eq fun bit => ?_)
  by_cases hbit : bit < 8
  · obtain ⟨px, py, rfl, rfl⟩ := exists_pixel hi hbit
    have hpixel := h px py
    rw [pixel_eq_testBit, pixel_eq_testBit] at hpixel
    exact hpixel
  · rw [testBit_eq_false _ (Nat.not_lt.1 hbit), testBit_eq_false _ (Nat.not_lt.1 hbit)]

/-! ## One row -/

/-- A row with the byte `bits` and its left end at `(x, y)` covers a pixel: the distance from its
left end is below eight, and the byte has a bit there. -/
def covers (bits : UInt8) (x y : Int) (px : Fin 64) (py : Fin 32) : Bool :=
  py = y % 32 && ((px - x) % 64 < 8 && bits.toNat.testBit (7 - ((px - x) % 64).toNat))

theorem toNat_stay (bits : UInt8) (offset : Fin 8) :
    (stay bits offset).toNat = bits.toNat >>> offset.val := by
  apply toNat_lowByte_of_lt (toInt_widen_shiftRight bits offset.isLt)
  exact Nat.lt_of_le_of_lt (Nat.shiftRight_le _ _) bits.toNat_lt

/-- At the left edge of its byte a row is shifted out as a whole. -/
theorem toInt_shiftOut_offset (bits : UInt8) (offset : Fin 8) :
    (shiftOut (widen bits) (8 - Int32.ofNat offset)).toInt =
      (bits.toNat * 2 ^ (8 - offset.val) % 2 ^ 8 : Nat) := by
  have hshift : (8 - Int32.ofNat offset : Int32).toInt = (8 - offset.val : Nat) := by
    fin_cases offset <;> rfl
  rw [toInt_shiftOut _ _ (by omega), toInt_widen, hshift, Int.toNat_natCast]
  push_cast
  rfl

theorem toNat_spill (bits : UInt8) (offset : Fin 8) :
    (spill bits offset).toNat = bits.toNat * 2 ^ (8 - offset.val) % 2 ^ 8 :=
  toNat_lowByte_of_lt (toInt_shiftOut_offset bits offset) (Nat.mod_lt _ (by decide))

/-- What stays in the first byte-column: the distance is within that column. -/
theorem marks_stay (bits : UInt8) (c offset : Fin 8) (px : Fin 64) :
    marks c (stay bits offset) px = (px / 8 = c.val &&
      (offset.val ≤ px % 8 && bits.toNat.testBit (7 - (px % 8 - offset)))) := by
  rw [marks, toNat_stay, Nat.testBit_shiftRight]
  simp only [columnOf, Fin.ext_iff]
  by_cases hleft : offset.val ≤ px.val % 8
  · have hbit : offset + (7 - px.val % 8) = 7 - (px.val % 8 - offset) := by omega
    rw [hbit, decide_eq_true hleft, Bool.true_and]
  · rw [testBit_eq_false bits (by omega), decide_eq_false hleft, Bool.false_and]

/-- What spills into the next byte-column: the distance goes past the edge between them. -/
theorem marks_spill (bits : UInt8) (c offset : Fin 8) (px : Fin 64) :
    marks c (spill bits offset) px = (px / 8 = c.val &&
      (px % 8 < offset.val && bits.toNat.testBit (7 - (px % 8 + 8 - offset)))) := by
  have h8 : 7 - px.val % 8 < 8 := by omega
  have hright : 8 - offset.val ≤ 7 - px.val % 8 ↔ px.val % 8 < offset := by omega
  have hbit : 7 - px.val % 8 - (8 - offset) = 7 - (px.val % 8 + 8 - offset) := by omega
  rw [marks, toNat_spill, Nat.testBit_mod_two_pow, Nat.testBit_mul_two_pow, hbit]
  simp only [columnOf, Fin.ext_iff, hright, h8, decide_true, Bool.true_and]

theorem marks_parts (bits : UInt8) (x : Int32) (px : Fin 64) :
    (marks (byteColumn x) (stay bits (bitOffset x)) px ||
      marks (byteColumn x + 1) (spill bits (bitOffset x)) px) =
      ((px - x.toInt) % 64 < 8 && bits.toNat.testBit (7 - ((px - x.toInt) % 64).toNat)) := by
  obtain ⟨k, hk⟩ : ∃ k : Nat, x.toInt % 64 = k := ⟨(x.toInt % 64).toNat, by omega⟩
  obtain ⟨d, hd⟩ : ∃ d : Nat, (px - x.toInt) % 64 = d := ⟨((px - x.toInt) % 64).toNat, by omega⟩
  have hcolumn : (byteColumn x).val = k / 8 := by simp only [byteColumn, hk, Int.toNat_natCast]
  have hoffset : (bitOffset x).val = k % 8 := by simp only [bitOffset, hk, Int.toNat_natCast]
  have hnext : (byteColumn x + 1).val = (k / 8 + 1) % 8 := by rw [Fin.val_add, hcolumn]; rfl
  rw [marks_stay, marks_spill, hcolumn, hoffset, hnext, hd, Int.toNat_natCast]
  -- Within the distance a pixel is in the first column or, past its edge, in the next.
  by_cases hlt : d < 8
  · have hplace : (px.val / 8 = k / 8 ∧ k % 8 ≤ px.val % 8 ∧ px.val % 8 - k % 8 = d) ∨
        (px.val / 8 = (k / 8 + 1) % 8 ∧ px.val % 8 < k % 8 ∧ px.val % 8 + 8 - k % 8 = d) := by
      omega
    rcases hplace with ⟨hfirst, hle, hdist⟩ | ⟨hsecond, hright, hdist⟩
    · simp [hfirst, hle, hdist, hlt, Nat.not_lt.2 hle]
    · simp [hsecond, hright, hdist, hlt, Nat.not_le.2 hright]
  · have hfirst : px.val / 8 = k / 8 → ¬ k % 8 ≤ px.val % 8 := by omega
    have hsecond : px.val / 8 = (k / 8 + 1) % 8 → ¬ px.val % 8 < k % 8 := by omega
    grind

theorem covers_eq (bits : UInt8) (x y : Int32) (px : Fin 64) (py : Fin 32) :
    covers bits x.toInt y.toInt px py =
      (py = line y && (marks (byteColumn x) (stay bits (bitOffset x)) px ||
        marks (byteColumn x + 1) (spill bits (bitOffset x)) px)) := by
  have hline : py = line y ↔ (py : Int) = y.toInt % 32 := by
    simp only [line, Fin.ext_iff]
    omega
  rw [marks_parts, covers, decide_eq_decide.2 hline]

theorem marks_next {c : Fin 8} {px : Fin 64} {part : UInt8} (h : marks (c + 1) part px = true)
    (other : UInt8) : marks c other px = false := by
  rw [marks, Bool.and_eq_true, decide_eq_true_iff] at h
  have hne : columnOf px ≠ c := by
    rw [h.1]
    fin_cases c <;> decide
  rw [marks, decide_eq_false hne, Bool.false_and]

/-- **Drawing a row flips the pixels it covers.** -/
theorem pixel_drawRow (s : Screen) (pixels x y : Int32) (px : Fin 64) (py : Fin 32) :
    (s.drawRow pixels x y).1.pixel px py =
      (s.pixel px py ^^ covers (lowByte pixels) x.toInt y.toInt px py) := by
  simp only [drawRow, pixel_flip, covers_eq]
  cases hnext : marks (byteColumn x + 1) (spill (lowByte pixels) (bitOffset x)) px with
  | true => simp [marks_next hnext]
  | false => simp

/-- **A row collides if it covers a lit pixel.** -/
theorem drawRow_hit_iff (s : Screen) (pixels x y : Int32) :
    (s.drawRow pixels x y).2 = true ↔
      ∃ px py, covers (lowByte pixels) x.toInt y.toInt px py = true ∧ s.pixel px py = true := by
  simp only [drawRow, Bool.or_eq_true, flip_hit_iff, pixel_flip, covers_eq, Bool.and_eq_true,
    decide_eq_true_iff]
  constructor
  · rintro (⟨px, hmark, hlit⟩ | ⟨px, hmark, hlit⟩)
    · exact ⟨px, line y, ⟨rfl, Or.inl hmark⟩, hlit⟩
    · -- The second part meets the screen after the first, which has left its column alone.
      rw [marks_next hmark, Bool.and_false, Bool.xor_false] at hlit
      exact ⟨px, line y, ⟨rfl, Or.inr hmark⟩, hlit⟩
  · rintro ⟨px, py, ⟨rfl, hmark | hmark⟩, hlit⟩
    · exact Or.inl ⟨px, hmark, hlit⟩
    · refine Or.inr ⟨px, hmark, ?_⟩
      rw [marks_next hmark, Bool.and_false, Bool.xor_false]
      exact hlit

end Chip8.Screen
