import Chip8.Proofs.Screen.Sprite

/-!
# One row of pixels

**Two parts** (`toNat_parts`). A row that does not start at the edge of a byte is split between two
bytes. Read as one word they are the row's byte times a power of two, so no bit is lost between the
parts, and none is in both (`testBit_parts`). At the edge the power is that of a whole byte, and the
second part is empty.

**A machine's row** (`drawRow_flips_covered`). A row drawn by a machine flips the pixels it covers
and changes nothing else. So an instruction that draws a sprite, and looks up each row in the
machine that the row before has left, finds the rows of the machine it started from
(`draw_eq_drawRows`).
-/

namespace Chip8

namespace Screen

/-! ## Two parts -/

theorem widen_stay (bits : UInt8) (offset : Fin 8) :
    widen (stay bits offset) = widen bits >>> Int32.ofNat offset := by
  apply Int32.toInt_inj.1
  rw [toInt_widen, toNat_stay, toInt_widen_shiftRight bits offset.isLt]

theorem widen_spill (bits : UInt8) (offset : Fin 8) :
    widen (spill bits offset) = shiftOut (widen bits) (8 - Int32.ofNat offset) := by
  apply Int32.toInt_inj.1
  rw [toInt_widen, toNat_spill, toInt_shiftOut_offset]

/-- **The parts of a row make up the row.** -/
theorem toNat_parts (bits : UInt8) (offset : Fin 8) :
    (bytesToWord (stay bits offset) (spill bits offset)).toNat =
      bits.toNat * 2 ^ (8 - offset.val) := by
  have hpow : 2 ^ 8 = 2 ^ offset.val * 2 ^ (8 - offset.val) := by
    rw [← pow_add]
    congr 1
    omega
  have hhigh : bits.toNat >>> offset.val = bits.toNat * 2 ^ (8 - offset.val) / 2 ^ 8 := by
    rw [Nat.shiftRight_eq_div_pow, hpow, Nat.mul_div_mul_right _ _ (Nat.two_pow_pos _)]
  rw [toNat_bytesToWord, toNat_stay, toNat_spill, hhigh]
  exact Nat.div_add_mod' _ _

/-- Each bit of a row is at one place of its parts, and there are no others. -/
theorem testBit_parts (bits : UInt8) (offset : Fin 8) (j : Nat) :
    (bytesToWord (stay bits offset) (spill bits offset)).toNat.testBit j = true ↔
      ∃ i, bits.toNat.testBit i = true ∧ j = i + (8 - offset) := by
  rw [toNat_parts, Nat.testBit_mul_two_pow, Bool.and_eq_true, decide_eq_true_iff]
  constructor
  · rintro ⟨hle, hbit⟩
    exact ⟨_, hbit, (Nat.sub_add_cancel hle).symm⟩
  · rintro ⟨i, hbit, rfl⟩
    exact ⟨Nat.le_add_left _ _, by rwa [Nat.add_sub_cancel]⟩

/-- **Shifting out multiplies, and splits a row without loss.** The result is the exact product with
the power of two, truncated to a byte, and zero from eight on. The two parts of a row are the shifts
of its byte, and as one word they are the byte moved to its place, with each bit once. -/
theorem shiftOut_splits_row :
    (∀ v s : Int32, 0 ≤ s.toInt →
      (shiftOut v s).toInt = v.toInt * 2 ^ s.toInt.toNat % 256 ∧
      (8 ≤ s.toInt → shiftOut v s = 0)) ∧
    ∀ (p : UInt8) (o : Fin 8),
      widen (stay p o) = widen p >>> Int32.ofNat o ∧
      widen (spill p o) = shiftOut (widen p) (8 - Int32.ofNat o) ∧
      (bytesToWord (stay p o) (spill p o)).toNat = p.toNat * 2 ^ (8 - o.val) ∧
      ∀ j, (bytesToWord (stay p o) (spill p o)).toNat.testBit j = true ↔
        ∃ i, p.toNat.testBit i = true ∧ j = i + (8 - o) := by
  refine ⟨fun v s hs => ⟨toInt_shiftOut v s hs, shiftOut_of_le⟩, fun p o => ?_⟩
  exact ⟨widen_stay p o, widen_spill p o, toNat_parts p o, testBit_parts p o⟩

/-- A negative number shifted by seven, all bits shifted out by the greatest shift, and a row at the
edge of its byte. -/
theorem shiftOut_splits_row_negative :
    0 ≤ (7 : Int32).toInt ∧ (shiftOut (-3) 7).toInt = -3 * 2 ^ 7 % 256 ∧
      0 ≤ (2147483647 : Int32).toInt ∧ shiftOut (-1) 2147483647 = 0 ∧
      (bytesToWord (stay 0xB7 0) (spill 0xB7 0)).toNat = 0xB7 * 2 ^ 8 := by
  have h7 : 0 ≤ (7 : Int32).toInt := by decide
  have hmax : 0 ≤ (2147483647 : Int32).toInt := by decide
  obtain ⟨hshift, hparts⟩ := shiftOut_splits_row
  exact ⟨h7, (hshift (-3) 7 h7).1, hmax, (hshift (-1) 2147483647 hmax).2 (by decide),
    (hparts 0xB7 0).2.2.1⟩

/-! ## Covered pixels -/

/-- A row covers the pixels less than eight to the right of its left end, around the edge, where the
integer it was given has a bit. -/
theorem covers_lowByte_iff (pixels : Int32) (x y : Int) (px : Fin 64) (py : Fin 32) :
    covers (lowByte pixels) x y px py = true ↔ (py : Int) = y % 32 ∧
      ∃ c < 8, (px - x) % 64 = (c : Nat) ∧ pixels.toInt.testBit (7 - c) = true := by
  simp only [covers, Bool.and_eq_true, decide_eq_true_iff]
  apply and_congr_right
  intro _
  constructor
  · rintro ⟨hlt, hbit⟩
    refine ⟨((px - x) % 64).toNat, by omega, by omega, ?_⟩
    rwa [← testBit_lowByte pixels (by omega)]
  · rintro ⟨c, hlt, hc, hbit⟩
    rw [hc, Int.toNat_natCast, testBit_lowByte pixels (by omega)]
    exact ⟨by omega, hbit⟩

end Screen

namespace Machine

/-! ## A machine's row -/

def drawRow (m : Machine) (pixels x y : Int32) : Machine × Bool :=
  let (screen, hit) := m.screen.drawRow pixels x y
  ({ m with screen }, hit)

/-- Draws some rows of the sprite at the index, each looked up in the machine that the one before
has left, and keeps whether a lit pixel went out. -/
def drawRows (x y : Int32) (start : Machine × Bool) (rows : List Nat) : Machine × Bool :=
  rows.foldl
    (fun (m, hit) row =>
      let offset := Int32.ofNat row
      let (m, rowHit) := m.drawRow (widen (m.load (m.indexAddress + offset))) x (y + offset)
      (m, hit || rowHit))
    start

theorem drawRows_eq (m : Machine) (x y : Int32) (s : Screen) (hit : Bool) (rows : List Nat) :
    drawRows x y ({ m with screen := s }, hit) rows =
      ({ m with screen := (Screen.drawStrokes (s, hit) (rows.map (m.spriteRow x y))).1 },
        (Screen.drawStrokes (s, hit) (rows.map (m.spriteRow x y))).2) := by
  -- A row changes the screen only, so the next one is looked up as in the first machine.
  induction rows generalizing s hit with
  | nil => rfl
  | cons row rows ih => exact ih _ _

/-- **Drawing a sprite is drawing its rows, one machine after another.** -/
theorem draw_eq_drawRows (m : Machine) (x y : Register) (height : Int) :
    m.draw x y height =
      let (n, hit) := drawRows (widen (m.register x)) (widen (m.register y)) (m, false)
        (List.range height.toNat)
      n.setRegister flagRegister (flag hit) := by
  have hrows := drawRows_eq m (widen (m.register x)) (widen (m.register y)) m.screen false
    (List.range height.toNat)
  rw [← drawSprite_eq] at hrows
  show _ = Machine.setRegister (drawRows _ _ ({ m with screen := m.screen }, false) _).1 _
    (flag (drawRows _ _ ({ m with screen := m.screen }, false) _).2)
  rw [hrows]
  rfl

/-- **Drawing a row, pixel by pixel.** The row is given by any integers. It covers, in its line
modulo 32, the pixels at a distance below eight from its left end modulo 64 where its bits are set,
from the seventh down. Every covered pixel is flipped, and no other; there is a collision exactly if
a covered pixel was lit; and nothing else of the machine changes. -/
theorem drawRow_flips_covered (m : Machine) (pixels x y : Int32) :
    let covered := Screen.covers (lowByte pixels) x.toInt y.toInt
    let n := (m.drawRow pixels x y).1
    (∀ (px : Fin 64) (py : Fin 32), covered px py = true ↔ (py : Int) = y.toInt % 32 ∧
      ∃ c < 8, (px - x.toInt) % 64 = (c : Nat) ∧ pixels.toInt.testBit (7 - c) = true) ∧
    (∀ (px : Fin 64) (py : Fin 32), n.screen.pixel px py =
      (m.screen.pixel px py ^^ covered px py)) ∧
    ((m.drawRow pixels x y).2 = true ↔
      ∃ px py, covered px py = true ∧ m.screen.pixel px py = true) ∧
    n = { m with screen := n.screen } :=
  ⟨Screen.covers_lowByte_iff pixels x.toInt y.toInt, m.screen.pixel_drawRow pixels x y,
    m.screen.drawRow_hit_iff pixels x y, rfl⟩

example :
    let s := (Screen.dark.drawRow 0xFF (-4) (-1)).1
    s[Screen.place 31 7] = 0x0F ∧ s[Screen.place 31 0] = 0xF0 := by decide +kernel

end Machine

end Chip8
