import Chip8.Number.Basic
import Mathlib

/-!
# Rounding

The double of a positive rational is a multiple of the spacing there, and the nearest one.

**Bounds** (`OnGrid`). Rounding does not step over a multiple of the spacing: what lies below one
is rounded to something below it, and what lies above one to something above it
(`roundPositive_le`, `le_roundPositive`). So the multiples themselves are exact.

**Powers of two** (`round_le_twoPow`). A power of two is a multiple of the spacing of everything
below it, and therefore a bound that rounding keeps.

**Integers** (`round_intCast`). From `2 ^ 53` on integers are rounded. Those below are exact, as
their spacing is a whole part of one.
-/

namespace Chip8.Double

/-! ## The nearest integer -/

theorem floor_le_nearest (q : Rat) : q.floor ≤ nearest q := by
  unfold nearest
  dsimp only
  split_ifs <;> omega

theorem nearest_le_floor_add_one (q : Rat) : nearest q ≤ q.floor + 1 := by
  unfold nearest
  dsimp only
  split_ifs <;> omega

theorem le_nearest {q : Rat} {z : Int} (h : z ≤ q) : z ≤ nearest q :=
  (Rat.le_floor_iff.2 h).trans (floor_le_nearest q)

theorem nearest_intCast (z : Int) : nearest z = z := by
  rw [nearest, Rat.floor_intCast, sub_self]
  exact if_pos (by norm_num)

theorem nearest_le {q : Rat} {z : Int} (h : q ≤ z) : nearest q ≤ z := by
  rcases h.eq_or_lt with rfl | hlt
  · exact (nearest_intCast z).le
  · have hfloor : q.floor < z := Rat.floor_lt_iff.2 hlt
    exact (nearest_le_floor_add_one q).trans hfloor

/-! ## Powers of two -/

theorem twoPow_eq (e : Int) : twoPow e = (2 : Rat) ^ e := by
  unfold twoPow
  split
  · next h =>
    lift e to Nat using h
    rw [Int.toNat_natCast, zpow_natCast]
    exact Nat.cast_pow 2 e
  · next h =>
    obtain ⟨n, rfl⟩ : ∃ n : Nat, e = -n := ⟨(-e).toNat, by omega⟩
    rw [neg_neg, Int.toNat_natCast, zpow_neg, zpow_natCast, one_div]
    exact congrArg _ (Nat.cast_pow 2 n)

theorem twoPow_pos (e : Int) : 0 < twoPow e := by
  rw [twoPow_eq]
  positivity

theorem twoPow_le_iff {d e : Int} : twoPow d ≤ twoPow e ↔ d ≤ e := by
  rw [twoPow_eq, twoPow_eq]
  exact zpow_le_zpow_iff_right₀ one_lt_two

theorem twoPow_lt_iff {d e : Int} : twoPow d < twoPow e ↔ d < e := by
  rw [twoPow_eq, twoPow_eq]
  exact zpow_lt_zpow_iff_right₀ one_lt_two

/-- A power of two is a multiple of each smaller one. -/
theorem twoPow_multiple {d e : Int} (h : d ≤ e) : ∃ z : Int, twoPow e = z * twoPow d := by
  refine ⟨2 ^ (e - d).toNat, ?_⟩
  have hsum : e = ((e - d).toNat : Int) + d := by omega
  rw [twoPow_eq, twoPow_eq, Int.cast_pow, ← zpow_natCast, Int.cast_ofNat, ← zpow_add₀ two_ne_zero,
    ← hsum]

/-- A positive rational reaches the power of two with its leading exponent. -/
theorem twoPow_leading_le {q : Rat} (hq : 0 < q) : twoPow (leading q) ≤ q := by
  unfold leading
  dsimp only
  split
  · assumption
  -- The estimate was above `q`, so the exponent is one less.
  have hnum : 0 < q.num := Rat.num_pos.2 hq
  have hlow : 2 ^ q.num.natAbs.log2 ≤ q.num.natAbs := Nat.log2_self_le (by omega)
  have hhigh : q.den < 2 ^ (q.den.log2 + 1) := Nat.lt_log2_self
  generalize q.num.natAbs.log2 = a at hlow ⊢
  generalize q.den.log2 = b at hhigh ⊢
  have hlow' : (2 : Rat) ^ a ≤ q.num := by
    have habs : (q.num.natAbs : Int) = q.num := Int.natAbs_of_nonneg hnum.le
    rw [← habs]
    exact_mod_cast hlow
  have hhigh' : (q.den : Rat) ≤ 2 ^ (b + 1) := by exact_mod_cast hhigh.le
  have hexponent : (a : Int) - b - 1 = (a : Int) - (b + 1 : Nat) := by
    push_cast
    ring
  calc twoPow (a - b - 1) = 2 ^ a / 2 ^ (b + 1) := by
        rw [twoPow_eq, hexponent, zpow_sub₀ two_ne_zero, zpow_natCast, zpow_natCast]
    _ ≤ q.num / q.den := by
        have hden : (0 : Rat) < q.den := Nat.cast_pos.2 q.den_pos
        gcongr
    _ = q := Rat.num_div_den q

/-! ## Bounds on the grid -/

theorem spacing_pos (q : Rat) : 0 < spacing q := twoPow_pos _

/-- A multiple of the spacing at a rational. -/
def OnGrid (q b : Rat) : Prop := ∃ z : Int, b = z * spacing q

theorem onGrid_zero (q : Rat) : OnGrid q 0 := ⟨0, by rw [Int.cast_zero, zero_mul]⟩

theorem roundPositive_le {q b : Rat} (hb : OnGrid q b) (h : q ≤ b) : roundPositive q ≤ b := by
  obtain ⟨z, rfl⟩ := hb
  have hz : q / spacing q ≤ z := (div_le_iff₀ (spacing_pos q)).2 h
  have hnearest : (nearest (q / spacing q) : Rat) ≤ z := Int.cast_le.2 (nearest_le hz)
  exact mul_le_mul_of_nonneg_right hnearest (spacing_pos q).le

theorem le_roundPositive {q b : Rat} (hb : OnGrid q b) (h : b ≤ q) : b ≤ roundPositive q := by
  obtain ⟨z, rfl⟩ := hb
  have hz : z ≤ q / spacing q := (le_div_iff₀ (spacing_pos q)).2 h
  have hnearest : (z : Rat) ≤ nearest (q / spacing q) := Int.cast_le.2 (le_nearest hz)
  exact mul_le_mul_of_nonneg_right hnearest (spacing_pos q).le

theorem roundPositive_of_onGrid {q : Rat} (h : OnGrid q q) : roundPositive q = q :=
  le_antisymm (roundPositive_le h le_rfl) (le_roundPositive h le_rfl)

/-- Within the range the double is the rounded value. -/
theorem round_eq {q : Rat} (h0 : 0 ≤ q) (h : roundPositive q < twoPow 1024) :
    round q = .real (roundPositive q) := by
  rcases h0.eq_or_lt with rfl | hpos
  · rw [roundPositive_of_onGrid (onGrid_zero 0)]
    rfl
  · rw [round, if_neg hpos.ne', if_neg hpos.not_gt, ofMagnitude]
    split
    · next hzero => rw [hzero]; rfl
    · exact if_neg h.not_ge

/-! ## Powers of two as bounds -/

theorem onGrid_twoPow {q : Rat} {e : Int} (hq : 0 < q) (he : -1074 ≤ e) (h : q ≤ twoPow e) :
    OnGrid q (twoPow e) := by
  have hleading : leading q ≤ e := twoPow_le_iff.1 ((twoPow_leading_le hq).trans h)
  exact twoPow_multiple (by omega)

/-- **Rounding stays below a power of two**, and does not go below zero. -/
theorem round_le_twoPow {q : Rat} {e : Int} (h0 : 0 ≤ q) (he : -1074 ≤ e) (he' : e < 1024)
    (h : q ≤ twoPow e) : ∃ r, round q = .real r ∧ 0 ≤ r ∧ r ≤ twoPow e := by
  rcases h0.eq_or_lt with rfl | hpos
  · exact ⟨0, rfl, le_rfl, h⟩
  · have hle : roundPositive q ≤ twoPow e := roundPositive_le (onGrid_twoPow hpos he h) h
    exact ⟨_, round_eq h0 (hle.trans_lt (twoPow_lt_iff.2 he')),
      le_roundPositive (onGrid_zero q) h0, hle⟩

/-! ## Exact integers -/

theorem onGrid_intCast {n : Int} (h0 : 0 < n) (h : n < 2 ^ 53) : OnGrid n n := by
  have hpos : (0 : Rat) < n := Int.cast_pos.2 h0
  have hlt : (n : Rat) < twoPow 53 := by
    rw [twoPow_eq]
    exact_mod_cast h
  have hleading : leading n < 53 := twoPow_lt_iff.1 ((twoPow_leading_le hpos).trans_lt hlt)
  -- Below `2 ^ 53` the spacing is a power of two of which one is a multiple.
  obtain ⟨z, hz⟩ := twoPow_multiple (d := max (leading n - 52) (-1074)) (e := 0) (by omega)
  refine ⟨n * z, ?_⟩
  calc (n : Rat) = n * twoPow 0 := by rw [twoPow_eq, zpow_zero, mul_one]
    _ = n * (z * spacing n) := by rw [hz]; rfl
    _ = (n * z : Int) * spacing n := by rw [Int.cast_mul, mul_assoc]

theorem round_intCast {n : Int} (h0 : 0 ≤ n) (h : n < 2 ^ 53) : round n = .real n := by
  rcases h0.eq_or_lt with rfl | hpos
  · rfl
  · have hexact : roundPositive n = n := roundPositive_of_onGrid (onGrid_intCast hpos h)
    have hrange : roundPositive n < twoPow 1024 := by
      rw [hexact]
      refine lt_trans ?_ (twoPow_lt_iff.2 (show (53 : Int) < 1024 by decide))
      rw [twoPow_eq]
      exact_mod_cast h
    rw [round_eq (Int.cast_nonneg h0) hrange, hexact]

end Chip8.Double
