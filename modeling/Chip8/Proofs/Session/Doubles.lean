import Chip8.Proofs.Number.Rounding
import Chip8.Proofs.Session.Pacing
import Chip8.Proofs.Session.Tally

/-!
# Pacing with doubles

A session set up with integer frequencies carries its debt of timer ticks as a double, which every
addition and every payment rounds. None of them can fail.

**The debt** (`Settled`). After a payment it is a double from zero to one. The upper bound may be
reached, as the fraction that is left is rounded, but not passed, as one is a power of two.

**One cycle** (`cycle_settled`). At up to `2 ^ 6` ticks a cycle the debt stays below `2 ^ 7`, so the
whole ticks in it are exact as doubles and fit the timers' arithmetic. A fault puts the debt back to
zero.

**Runs** (`run_settled`). So every cycle of a run is made, and has its place in the trace.
-/

namespace Chip8

/-- An integer below `2 ^ 53` is exact as a double. -/
theorem Double.ofInt_eq {n : Int} (h0 : 0 ≤ n) (h : n < 2 ^ 53) :
    Double.ofInt n = .ok (.real n) := by
  rw [Double.ofInt, Double.round_intCast h0 h]

namespace Number

open ClockArithmetic

theorem le_integer (m n : Int) : le (integer m) (integer n) = decide (m ≤ n) := by
  have hcompare : compare? (integer m) (integer n) =
      some (if m < n then .lt else if m = n then .eq else .gt) := by
    show some (if (m : Rat) < n then Ordering.lt else if (m : Rat) = n then .eq else .gt) = _
    simp only [Int.cast_lt, Int.cast_inj]
  show (decide (compare? _ _ = some .lt) || decide (compare? _ _ = some .eq)) = _
  rw [hcompare]
  rcases lt_trichotomy m n with h | h | h
  · rw [if_pos h, decide_eq_true h.le]
    rfl
  · rw [if_neg h.not_lt, if_pos h, decide_eq_true h.le]
    rfl
  · rw [if_neg h.not_gt, if_neg h.ne', decide_eq_false h.not_ge]
    rfl

/-- A quotient of integers that is not above a power of two. -/
theorem div_integer {m n e : Int} (hm : 0 ≤ m) (hn : 0 < n) (he : -1074 ≤ e) (he' : e < 1024)
    (h : (m / n : Rat) ≤ Double.twoPow e) :
    ∃ q, div (integer m) (integer n) = .ok (double (.real q)) ∧ 0 ≤ q ∧ q ≤ Double.twoPow e := by
  have hquotient : (0 : Rat) ≤ m / n := div_nonneg (Int.cast_nonneg hm) (Int.cast_nonneg hn.le)
  obtain ⟨q, hround, h0, hle⟩ := Double.round_le_twoPow hquotient he he' h
  refine ⟨q, ?_, h0, hle⟩
  show intQuotient m n = _
  rw [intQuotient, if_neg hn.ne', hround]
  dsimp only
  split
  · next hzero =>
    rw [decide_eq_false hm.not_gt, decide_eq_false hn.not_gt, hzero]
    rfl
  · rfl

/-- A sum of doubles that is not above a power of two. -/
theorem add_double {a b : Rat} {e : Int} (h0 : 0 ≤ a + b) (he : -1074 ≤ e) (he' : e < 1024)
    (h : a + b ≤ Double.twoPow e) :
    ∃ x, add (double (.real a)) (double (.real b)) = .ok (double (.real x)) ∧ 0 ≤ x ∧
      x ≤ Double.twoPow e := by
  obtain ⟨x, hround, hx0, hle⟩ := Double.round_le_twoPow h0 he he' h
  refine ⟨x, ?_, hx0, hle⟩
  show Except.ok (double (Double.round (a + b))) = _
  rw [hround]

/-- What is left of a double without its whole part. -/
theorem sub_floor {x : Rat} (h0 : 0 ≤ x) (hlt : x < 2 ^ 53) (hfloor : ⌊x⌋ ≠ 0) :
    ∃ d, sub (double (.real x)) (ofInt ⌊x⌋) = .ok (double (.real d)) ∧ 0 ≤ d ∧ d ≤ 1 := by
  have hexact : Double.ofInt ⌊x⌋ = .ok (.real ⌊x⌋) :=
    Double.ofInt_eq (Int.floor_nonneg.2 h0) (Int.floor_lt.2 (by exact_mod_cast hlt))
  have hneg : (Double.real ⌊x⌋).neg = .real (-⌊x⌋) := if_neg (Int.cast_ne_zero.2 hfloor)
  have hfract : x + -⌊x⌋ = Int.fract x := by rw [← sub_eq_add_neg, Int.self_sub_floor]
  have hone : Double.twoPow 0 = 1 := by rw [Double.twoPow_eq, zpow_zero]
  -- The rest is below one, and may be rounded up to it.
  obtain ⟨d, hround, hd0, hd1⟩ := Double.round_le_twoPow (Int.fract_nonneg x)
    (show -1074 ≤ (0 : Int) by decide) (by decide) (by rw [hone]; exact (Int.fract_lt_one x).le)
  refine ⟨d, ?_, hd0, hone ▸ hd1⟩
  show (do return double ((Double.real x).sub (← Double.ofInt ⌊x⌋)) : Except Fault Number) = _
  rw [hexact]
  show Except.ok (double ((Double.real x).add (Double.real ⌊x⌋).neg)) = _
  rw [hneg, Double.add, hfract, hround]

end Number

namespace Session

open ClockArithmetic

/-! ## One cycle -/

/-- The program fits, and the debt is a double from zero to one. -/
structure Settled (s : Session Number) : Prop where
  fits : s.program.length ≤ longestProgram
  debt : ∃ d : Rat, s.debt = .double (.real d) ∧ 0 ≤ d ∧ d ≤ 1

theorem settle_settled {s : Session Number} {x : Rat} (hfits : s.program.length ≤ longestProgram)
    (hdebt : s.debt = .double (.real x)) (h0 : 0 ≤ x) (hlt : x < 2 ^ 31) :
    ∃ t, s.settle = .done t ⌊x⌋ ∧ Settled t := by
  have htrunc : trunc s.debt = .ok ⌊x⌋ := by
    rw [hdebt]
    exact trunc_eq_floor h0
  rw [settle, htrunc]
  by_cases hdue : ⌊x⌋ = 0
  · have hx : x < 1 := by
      have hfloor := Int.lt_floor_add_one x
      rwa [hdue, Int.cast_zero, zero_add] at hfloor
    exact ⟨s, by simp only [hdue, if_true], hfits, x, hdebt, h0, hx.le⟩
  · have hfloor : ⌊x⌋ < 2 ^ 31 := Int.floor_lt.2 (by exact_mod_cast hlt)
    obtain ⟨d, hsub, hd⟩ := Number.sub_floor h0 (hlt.trans (by norm_num)) hdue
    have hpay : s.payDebt ⌊x⌋ = .ok { s with debt := .double (.real d) } := by
      rw [payDebt, hdebt, hsub]
      rfl
    refine ⟨{ s with
      debt := .double (.real d), machine := s.machine.tickTimers (Int32.ofInt ⌊x⌋) }, ?_, hfits, d,
      rfl, hd⟩
    simp only [if_neg hdue, hpay, attempt, Outcome.done_next,
      tickTimers_eq _ (Int.floor_nonneg.2 h0) hfloor]

theorem step_settled {s : Session Number} (hs : Settled s) :
    ∃ t, s.step = .done t t.status ∧ Settled t := by
  refine ⟨s.step.session, step_done hs.fits, ?_⟩
  have h := stepped s
  generalize s.step.session = t at h ⊢
  cases h with
  | ticked | stuck => exact ⟨hs.fits, hs.debt⟩
  | restarted => exact ⟨hs.fits, 0, rfl, le_rfl, zero_le_one⟩

/-- **A cycle has a result**, and leaves a debt of one tick at most. -/
theorem cycle_settled {s : Session Number} (hs : Settled s) {p : Rat} (hp0 : 0 ≤ p)
    (hp : p ≤ Double.twoPow 6) :
    ∃ t ticks, s.cycle (.double (.real p)) = .done t ticks ∧ Settled t := by
  obtain ⟨t, hstep, ht⟩ := step_settled hs
  obtain ⟨d, hdebt, hd0, hd1⟩ := ht.debt
  have hsum : d + p ≤ Double.twoPow 7 := by
    rw [Double.twoPow_eq] at hp ⊢
    norm_num at hp ⊢
    linarith
  obtain ⟨x, hadd, hx0, hx⟩ :=
    Number.add_double (add_nonneg hd0 hp0) (by decide) (by decide) hsum
  -- Small enough for the timers, and for whole parts to be exact.
  have hlt : x < 2 ^ 31 := by
    rw [Double.twoPow_eq] at hx
    norm_num at hx ⊢
    linarith
  obtain ⟨u, hsettle, hu⟩ :=
    settle_settled (s := { t with debt := .double (.real x) }) ht.fits rfl hx0 hlt
  refine ⟨u, ⌊x⌋, ?_, hu⟩
  have hdebt' : t.addDebt (.double (.real p)) = .ok { t with debt := .double (.real x) } := by
    rw [addDebt, hdebt, hadd]
    rfl
  simp only [cycle, hstep, Outcome.done_next, hdebt', attempt, hsettle]

/-! ## Runs -/

theorem cycles_settled {s : Session Number} (hs : Settled s) {p : Rat} (hp0 : 0 ≤ p)
    (hp : p ≤ Double.twoPow 6) (n : Nat) (w : Work) :
    ∃ t w', cycles (.double (.real p)) n s w = .done t w' ∧
      (results (cyclesTrace (.double (.real p)) n s)).length = n := by
  induction n generalizing s w with
  | zero => exact ⟨s, w, rfl, rfl⟩
  | succ n ih =>
    obtain ⟨t, ticks, hcycle, ht⟩ := cycle_settled hs hp0 hp
    obtain ⟨u, w', hcycles, hlength⟩ := ih ht (w.add ticks)
    have htrace : cyclesTrace (.double (.real p)) (n + 1) s =
        .cycle s :: .timers ticks :: cyclesTrace (.double (.real p)) n t := by
      rw [cyclesTrace, repeatTrace, cycleTrace, hcycle]
      rfl
    refine ⟨u, w', ?_, ?_⟩
    · rw [cycles_succ, hcycle]
      exact hcycles
    · rw [htrace]
      exact congrArg Nat.succ hlength

/-- **A run has a result, and all its cycles are made**, at frequencies of which the one of the
timers is at most `2 ^ 6` times the other. -/
theorem run_settled {s : Session Number} (hs : Settled s) (hpaused : s.paused = false)
    {timer instruction : Int} (htimer : s.timerFrequency = .integer timer)
    (hinstruction : s.instructionFrequency = .integer instruction) (ht : 0 ≤ timer)
    (hi : 0 < instruction) (hratio : timer ≤ 2 ^ 6 * instruction) (n : Int) :
    ∃ t w, s.run n = .done t w ∧ (results (s.runTrace n)).length = n.toNat := by
  have hquotient : (timer / instruction : Rat) ≤ Double.twoPow 6 := by
    rw [div_le_iff₀ (Int.cast_pos.2 hi), Double.twoPow_eq]
    exact_mod_cast hratio
  obtain ⟨p, hdiv, hp0, hp⟩ := Number.div_integer ht hi (by decide) (by decide) hquotient
  obtain ⟨t, w, hcycles, hlength⟩ := cycles_settled hs hp0 hp n.toNat ⟨0, 0⟩
  refine ⟨t, w, ?_, ?_⟩
  · rw [run_eq, hpaused, htimer, hinstruction, hdiv]
    exact hcycles
  · rw [runTrace, hpaused, htimer, hinstruction, hdiv]
    exact hlength

end Session

end Chip8
