import Chip8.Proofs.Words

/-!
# Rows of byte cells as functions

Within the row the index rule never shows: a read and a write at a natural number below the length
are those of the cell (`read_natCast`, `read_write`). An overwritten block holds the bytes of the
list, and all cells outside it are as before (`getElem_overwrite`).
-/

namespace Chip8.Cells

variable {n : Nat}

theorem position_natCast (i : Nat) : position n (i : Int) = i := by
  rw [position, if_neg (by omega)]

theorem read_natCast (cells : Cells n) {i : Nat} (h : i < n) : cells.read i = cells[i] := by
  rw [read, position_natCast, Int.toNat_natCast, Nat.min_eq_left (by omega),
    Vector.getElem?_eq_getElem h]
  rfl

theorem write_natCast (cells : Cells n) (i : Nat) (b : UInt8) :
    cells.write i b = cells.setIfInBounds i b := by
  rw [write, position_natCast, if_pos (by omega), Int.toNat_natCast]

/-- A read after a write, the write anywhere and the read within the row. -/
theorem read_write (cells : Cells n) (i : Nat) {j : Nat} (b : UInt8) (h : j < n) :
    (cells.write i b).read j = if i = j then b else cells.read j := by
  rw [write_natCast, read_natCast _ h, read_natCast _ h, Vector.getElem_setIfInBounds h]

theorem getElem_overwrite (cells : Cells n) (start : Nat) (bytes : List UInt8) {i : Nat}
    (h : i < n) :
    (cells.overwrite start bytes)[i] =
      if hi : start ≤ i ∧ i < start + bytes.length then bytes[i - start] else cells[i] := by
  induction bytes generalizing cells start with
  | nil =>
    rw [overwrite, dif_neg (by simp)]
  | cons b bytes ih =>
    rw [overwrite, ih, Vector.getElem_setIfInBounds h]
    by_cases hs : start = i
    · subst hs
      rw [dif_neg (by omega), if_pos rfl, dif_pos (by simp)]
      simp
    · rw [if_neg hs]
      by_cases hi : start + 1 ≤ i ∧ i < start + 1 + bytes.length
      · rw [dif_pos hi, dif_pos (by simp; omega)]
        obtain ⟨k, hk⟩ : ∃ k, i - start = k + 1 := ⟨i - start - 1, by omega⟩
        simp only [hk, List.getElem_cons_succ]
        congr 1
        omega
      · rw [dif_neg hi, dif_neg (by simp; omega)]

end Chip8.Cells
