import Chip8.Progress
import Chip8.Proofs.Session.Clock

/-!
# Accepted configurations

What a session can be set up with, and whether all its runs then come to their end. Clock readings
and debts are exact rationals here, and the frequencies of a new session are integers.

**The instruction frequency** (`frequencyAfter`). Doubling and halving leave it an integer from 1 to
1000000, and twenty halvings bring it to 1.

**The debt** (`Owes`). It is at least zero and less than one tick between any two operations, also
after one that failed: the whole ticks are taken out of it before the timers get them.

**Runs** (`Completes`, `Breaks`). A cycle adds the quotient of the frequencies to the debt, and the
timers take less than `2 ^ 31` ticks at once. So all cycles of a run have a result if the quotient
is at most `2 ^ 31 - 1`, crashes included, and not even the first has one if it is `2 ^ 31` or more.
A progress that is updated after each cycle changes nothing of the run (`runWith_fst`).

**Configurations** (`runs_complete_iff`). Setting up limits the instruction frequency on both sides,
the timer frequency from below only. All runs come to their end exactly if it is below `2 ^ 31`.
-/

namespace Chip8

variable {κ : Type}

/-- Updates for single cycles add up. -/
theorem Progress.update_iterate (p : Progress) (n : Nat) :
    (fun p => p.update 1)^[n] p = p.update n := by
  obtain ⟨total, description, disabled, count⟩ := p
  induction n generalizing count with
  | zero => cases disabled <;> simp [update]
  | succ n ih =>
    cases disabled with
    | true => exact ih count
    | false =>
      have hcount : count + 1 + n = count + (n + 1 : Nat) := by omega
      exact (ih (count + 1)).trans (congrArg (Progress.mk total description false) hcount)

/-! ## The instruction frequency -/

namespace Operation

/-- The operation keeps to the limits of the instruction frequency. -/
def keepsLimits : Operation κ → Bool
  | .assignFrequency _ => false
  | _ => true

/-- The instruction frequency after an operation that keeps to its limits. -/
def frequencyAfter (op : Operation κ) (k : Int) : Int :=
  match op with
  | .increaseFrequency => min Session.greatestFrequency (k * 2)
  | .decreaseFrequency => max Session.leastFrequency (k / 2)
  | _ => k

theorem frequencyAfter_within (op : Operation κ) {k : Int} (h : 1 ≤ k ∧ k ≤ 1000000) :
    1 ≤ op.frequencyAfter k ∧ op.frequencyAfter k ≤ 1000000 := by
  cases op with
  | increaseFrequency =>
    show 1 ≤ min 1000000 (k * 2) ∧ min 1000000 (k * 2) ≤ 1000000
    omega
  | decreaseFrequency =>
    show 1 ≤ max 1 (k / 2) ∧ max 1 (k / 2) ≤ 1000000
    omega
  | _ => exact h

end Operation

/-- The instruction frequency after some operations that keep to its limits. -/
def frequencyAfter (k : Int) (ops : List (Operation κ)) : Int :=
  ops.foldl (fun k op => op.frequencyAfter k) k

theorem frequencyAfter_halvings {n : Nat} {k : Int} (h1 : 1 ≤ k) (h : k ≤ 2 ^ n) :
    frequencyAfter k (List.replicate n (.decreaseFrequency : Operation κ)) = 1 := by
  induction n generalizing k with
  | zero => exact le_antisymm h h1
  | succ n ih =>
    rw [pow_succ] at h
    have hhalf : 1 ≤ max 1 (k / 2) ∧ max 1 (k / 2) ≤ 2 ^ n := by
      have hone : (1 : Int) ≤ 2 ^ n := one_le_pow₀ (by decide)
      omega
    exact ih hhalf.1 hhalf.2

theorem smaller_intCast (a b : Int) :
    ClockArithmetic.smaller (a : Rat) (b : Rat) = (min a b : Int) := by
  have hlt : ClockArithmetic.lt (b : Rat) (a : Rat) = decide (b < a) :=
    decide_eq_decide.2 Int.cast_lt
  rw [ClockArithmetic.smaller, hlt]
  by_cases h : b < a
  · rw [if_pos (decide_eq_true h), min_eq_right h.le]
  · rw [if_neg (by simpa using h), min_eq_left (not_lt.1 h)]

theorem larger_intCast (a b : Int) :
    ClockArithmetic.larger (a : Rat) (b : Rat) = (max a b : Int) := by
  have hlt : ClockArithmetic.lt (a : Rat) (b : Rat) = decide (a < b) :=
    decide_eq_decide.2 Int.cast_lt
  rw [ClockArithmetic.larger, hlt]
  by_cases h : a < b
  · rw [if_pos (decide_eq_true h), max_eq_right h.le]
  · rw [if_neg (by simpa using h), max_eq_left (not_lt.1 h)]

theorem floorHalf_intCast (k : Int) : ClockArithmetic.floorHalf (k : Rat) = (k / 2 : Int) := by
  have hfloor := Rat.floor_intCast_div_natCast k 2
  rw [Nat.cast_ofNat] at hfloor
  exact congrArg Int.cast hfloor

/-- What both steps leave has the property, whether or not the first succeeds. -/
theorem Outcome.next_session {α β : Type} {P : Session κ → Prop} {o : Outcome κ α}
    {f : Session κ → α → Outcome κ β} (ho : P o.session) (hf : ∀ a, P (f o.session a).session) :
    P (o.next f).session := by
  unfold next
  cases o.result with
  | ok a => exact hf a
  | error e => exact ho

namespace Session

/-- The frequencies after an operation that keeps to the limits. -/
theorem operate_frequencies {s : Session Rat} {op : Operation Rat} {k : Int}
    (hop : op.keepsLimits = true) (hk : s.instructionFrequency = k) :
    (s.operate op).session.timerFrequency = s.timerFrequency ∧
      (s.operate op).session.instructionFrequency = op.frequencyAfter k := by
  by_cases hruns : op.runs = true
  · have hkept := (kept_settings s.paused s.timerFrequency s.instructionFrequency).traced.operate
      s hruns ⟨rfl, rfl, rfl⟩
    cases op with
    | step | run | runFor | sync | tickTimers => exact ⟨hkept.2.1, hkept.2.2.trans hk⟩
    | _ => cases hruns
  by_cases hstill : op.keepsTime = true ∧ op.time? = none
  · have hsame := operate_sameTime s hstill.1 hstill.2
    have hfrequency : op.frequencyAfter k = k := by
      cases op <;> first | rfl | cases hstill.1
    rw [hfrequency]
    exact ⟨hsame.timer, hsame.instruction.trans hk⟩
  -- What is left is a change of the frequency.
  cases op with
  | increaseFrequency =>
    have hdoubled : s.instructionFrequency * 2 = ((k * 2 : Int) : Rat) := by
      rw [hk, Int.cast_mul, Int.cast_ofNat]
    have hset : (s.operate .increaseFrequency) =
        s.setFrequency ((min greatestFrequency (k * 2) : Int) : Rat) := by
      rw [← smaller_intCast, ← hdoubled]
      rfl
    obtain ⟨log, hdone⟩ := setFrequency_eq s ((min greatestFrequency (k * 2) : Int) : Rat)
    rw [hset, hdone]
    exact ⟨rfl, rfl⟩
  | decreaseFrequency =>
    have hset : (s.operate .decreaseFrequency) =
        s.setFrequency ((max leastFrequency (k / 2) : Int) : Rat) := by
      rw [← larger_intCast, ← floorHalf_intCast, ← hk]
      rfl
    obtain ⟨log, hdone⟩ := setFrequency_eq s ((max leastFrequency (k / 2) : Int) : Rat)
    rw [hset, hdone]
    exact ⟨rfl, rfl⟩
  | assignFrequency f => cases hop
  | step | run | runFor | sync | tickTimers => exact absurd rfl hruns
  | _ => exact absurd ⟨rfl, rfl⟩ hstill

/-! ## The debt -/

/-- The session owes its timers a part of a tick. -/
def Owes (s : Session Rat) : Prop := 0 ≤ s.debt ∧ s.debt < 1

theorem Loaded.debt_eq {s t : Session κ} (h : Loaded s t) : t.debt = s.debt := by
  obtain ⟨_, _, _, _, rfl⟩ := h
  rfl

theorem div_eq_ok {a b q : Rat} (h : ClockArithmetic.div a b = .ok q) : q = a / b := by
  by_cases hzero : b = 0
  · have hdiv : ClockArithmetic.div a b = .error .divisionByZero := if_pos hzero
    rw [hdiv] at h
    cases h
  · have hdiv : ClockArithmetic.div a b = .ok (a / b) := if_neg hzero
    rw [hdiv] at h
    cases h
    rfl

namespace Owes

variable {s : Session Rat}

theorem of_debt_eq {t : Session Rat} (hs : Owes s) (h : t.debt = s.debt) : Owes t := by
  rw [Owes, h]
  exact hs

theorem step (hs : Owes s) : Owes s.step.session := by
  have h := stepped s
  generalize s.step.session = t at h ⊢
  cases h with
  | ticked | stuck => exact hs
  | restarted => exact ⟨le_rfl, zero_lt_one⟩

theorem tickTimers (hs : Owes s) (n : Int) : Owes (s.attempt (s.tickTimers n)).session :=
  attempt_session hs fun t ht => by
    rw [tickTimers_eq_ok ht]
    exact hs

theorem settle (h0 : 0 ≤ s.debt) : Owes s.settle.session := by
  have hpaid : Owes s.paid := ⟨Int.fract_nonneg _, Int.fract_lt_one _⟩
  -- Whether or not the timers take the ticks, they are no longer owed.
  have hticked := hpaid.tickTimers ⌊s.debt⌋
  rw [settle_paid h0]
  exact Outcome.next_session hticked fun _ => hticked

theorem cycle (hs : Owes s) {perCycle : Rat} (h0 : 0 ≤ perCycle) :
    Owes (s.cycle perCycle).session := by
  refine Outcome.next_session hs.step fun _ => ?_
  exact settle (add_nonneg hs.step.1 h0)

theorem cycles (hs : Owes s) {perCycle : Rat} (h0 : 0 ≤ perCycle) (n : Nat) (w : Work) :
    Owes (Session.cycles perCycle n s w).session := by
  induction n generalizing s w with
  | zero => exact hs
  | succ n ih =>
    have hcycle := hs.cycle h0
    rw [cycles_succ]
    exact Outcome.next_session hcycle fun _ => ih hcycle _

theorem run (hs : Owes s) (h0 : 0 ≤ s.rate) (n : Int) : Owes (s.run n).session := by
  rw [run_eq]
  split
  · exact hs
  · cases hdiv : ClockArithmetic.div s.timerFrequency s.instructionFrequency with
    | error e => exact hs
    | ok perCycle =>
      have hrate : perCycle = s.rate := div_eq_ok hdiv
      exact hs.cycles (hrate ▸ h0) n.toNat _

theorem steps (hs : Owes s) (n : Nat) : Owes (Session.steps n s).session := by
  induction n generalizing s with
  | zero => exact hs
  | succ n ih => exact Outcome.next_session hs.step fun _ => ih hs.step

theorem catchUp (hs : Owes s) (last now : Rat) : Owes (s.catchUp last now).session := by
  unfold Session.catchUp
  cases ticksBetween last now s.instructionFrequency with
  | error e => exact hs
  | ok due =>
    have hsteps := hs.steps due.toNat
    refine Outcome.next_session hsteps fun _ => ?_
    cases ticksBetween last now (Session.steps due.toNat s).session.timerFrequency with
    | error e => exact hsteps
    | ok ticks =>
      have hticked := hsteps.tickTimers ticks
      exact Outcome.next_session hticked fun _ => hticked

theorem runFor (hs : Owes s) (seconds : Rat) : Owes (s.runFor seconds).session := by
  unfold Session.runFor
  split
  · exact hs
  · cases ClockArithmetic.add s.clock seconds with
    | error e => exact hs
    | ok now =>
      have hmoved : Owes { s with clock := now } := hs
      exact hmoved.catchUp s.clock now

theorem sync (hs : Owes s) (now : Rat) : Owes (s.sync now).session := by
  have hstarted : Owes { s with lastSync := some now } := hs
  unfold Session.sync
  cases s.lastSync with
  | none => exact hstarted
  | some last =>
    dsimp only
    cases ClockArithmetic.sub now last with
    | error e => exact hstarted
    | ok elapsed => exact hstarted.runFor _

/-- **The debt stays below one tick**, whatever is done and whether or not it succeeds. -/
theorem operate (hs : Owes s) (h0 : 0 ≤ s.rate) (op : Operation Rat) :
    Owes (s.operate op).session := by
  cases hruns : op.runs with
  | true =>
    cases op with
    | step => exact hs.step
    | run n => exact hs.run h0 n
    | runFor seconds => exact hs.runFor seconds
    | sync now => exact hs.sync now
    | tickTimers n => exact hs.tickTimers n
    | _ => cases hruns
  | false =>
    have hhandled := handled s hruns
    generalize (s.operate op).session = t at hhandled ⊢
    cases hhandled with
    | still => exact hs
    | loaded _ hloaded => exact hs.of_debt_eq hloaded.debt_eq
    | adjusted _ hadjusted =>
      obtain ⟨_, _, _, _, rfl⟩ := hadjusted
      exact hs
    | reset hreset =>
      obtain ⟨machine, -, rfl⟩ := exists_of_map_eq_ok hreset
      exact ⟨le_rfl, zero_lt_one⟩

end Owes

/-! ## Runs -/

/-- What the timers are owed after the next cycle. -/
def dueNext (s : Session Rat) : Rat := s.step.session.debt + s.rate

/-- The session after a cycle whose ticks the timers take: one step, and then the timers get what
they are owed, except for the part of a tick. -/
def cycled (s : Session Rat) : Session Rat :=
  { s.step.session with
    machine := s.step.session.machine.tickTimers (Int32.ofInt ⌊s.dueNext⌋)
    debt := Int.fract s.dueNext }

/-- The ticks given in some cycles, one after another. -/
def cycleTicks : Nat → Session Rat → List Int
  | 0, _ => []
  | n + 1, s => ⌊s.dueNext⌋ :: cycleTicks n s.cycled

/-- A run comes to its end: it returns the number of its cycles, has made so many, one after another,
and has updated its progress so often. -/
structure Completes (s : Session Rat) (n : Nat) : Prop where
  result : ∃ ticks, (s.run n).result = .ok ⟨n, ticks⟩
  session : (s.run n).session = cycled^[n] s
  progress {σ : Type} (update : σ → σ) (p : σ) :
    s.runWith (fun p _ => update p) n p = (.done (s.run n).session n, update^[n] p)
  cycles : cyclesRun (s.runTrace n) = n

theorem Completes.progress_update {s : Session Rat} {n : Nat} (h : s.Completes n) (p : Progress) :
    s.runWith (fun p _ => p.update 1) n p = (.done (s.run n).session n, p.update n) := by
  rw [h.progress, Progress.update_iterate]

/-- A run ends within its first cycle: the instruction is executed and the debt paid, but the timers
refuse the ticks, and the progress is not updated. -/
structure Breaks (s : Session Rat) (n : Nat) : Prop where
  progress {σ : Type} (update : σ → σ) (p : σ) :
    s.runWith (fun p _ => update p) n p = (⟨(s.run n).session, .error .outOfRange⟩, p)
  session : (s.run n).session =
    { s.step.session with debt := Int.fract (s.step.session.debt + s.rate) }
  cycles : s.runTrace n = [.cycle s]

theorem cycle_eq_settle {s : Session Rat} (hfits : s.program.length ≤ longestProgram) :
    s.cycle s.rate = settle { s.step.session with debt := s.dueNext } := by
  rw [cycle, step_done hfits]
  rfl

theorem settle_breaks {s : Session Rat} (h : 2 ^ 31 ≤ s.debt) :
    s.settle = ⟨s.paid, .error .outOfRange⟩ := by
  have hfloor : 2 ^ 31 ≤ ⌊s.debt⌋ := Int.le_floor.2 (by exact_mod_cast h)
  have hrefused : s.paid.tickTimers ⌊s.debt⌋ = .error .outOfRange := by
    rw [tickTimers, if_neg (by omega), narrow_eq_error (by omega)]
    rfl
  rw [settle_paid (le_trans (by norm_num) h), hrefused]
  rfl

theorem foldl_add_work (ticks : List Int) (w : Work) :
    ticks.foldl Work.add w = ⟨w.cycles + ticks.length, w.ticks + ticks.sum⟩ := by
  induction ticks generalizing w with
  | nil => simp
  | cons n ticks ih =>
    rw [List.foldl_cons, ih, List.length_cons, List.sum_cons]
    simp only [Work.add, Work.mk.injEq]
    omega

theorem length_cycleTicks (n : Nat) (s : Session Rat) : (cycleTicks n s).length = n := by
  induction n generalizing s with
  | zero => rfl
  | succ n ih => rw [cycleTicks, List.length_cons, ih]

/-! ## Configurations -/

/-- What holds of a session with timer frequency `t` whose instruction frequency, now `k`, has kept
to its limits. -/
structure Configured (t k : Int) (s : Session Rat) : Prop where
  fits : s.program.length ≤ longestProgram
  owes : Owes s
  timer : s.timerFrequency = t
  timer_pos : 0 < t
  frequency : s.instructionFrequency = k
  within : 1 ≤ k ∧ k ≤ 1000000

namespace Configured

variable {t k : Int} {s : Session Rat}

theorem frequency_pos (h : Configured t k s) : (0 : Rat) < k :=
  Int.cast_pos.2 (zero_lt_one.trans_le h.within.1)

theorem rate_eq (h : Configured t k s) : s.rate = t / k := by rw [rate, h.timer, h.frequency]

theorem rate_nonneg (h : Configured t k s) : 0 ≤ s.rate := by
  rw [h.rate_eq]
  exact div_nonneg (Int.cast_nonneg h.timer_pos.le) h.frequency_pos.le

theorem operate (h : Configured t k s) {op : Operation Rat} (hop : op.keepsLimits = true) :
    Configured t (op.frequencyAfter k) (s.operate op).session := by
  obtain ⟨htimer, hfrequency⟩ := operate_frequencies hop h.frequency
  exact ⟨operate_program_fits op h.fits, h.owes.operate h.rate_nonneg op, htimer.trans h.timer,
    h.timer_pos, hfrequency, op.frequencyAfter_within h.within⟩

theorem after (h : Configured t k s) {ops : List (Operation Rat)}
    (hops : ∀ op ∈ ops, op.keepsLimits = true) :
    Configured t (frequencyAfter k ops) (s.after ops) := by
  induction ops generalizing s k with
  | nil => exact h
  | cons op ops ih =>
    exact ih (h.operate (hops op List.mem_cons_self)) fun o ho =>
      hops o (List.mem_cons_of_mem _ ho)

/-! ### Cycles -/

theorem dueNext_eq (h : Configured t k s) : s.dueNext = s.step.session.debt + t / k := by
  rw [dueNext, h.rate_eq]

theorem dueNext_nonneg (h : Configured t k s) : 0 ≤ s.dueNext :=
  add_nonneg h.owes.step.1 h.rate_nonneg

/-- A cycle leaves the session configured as it was, also one that crashes. -/
theorem cycled (h : Configured t k s) : Configured t k s.cycled := by
  have hkept := (kept_settings s.paused s.timerFrequency s.instructionFrequency).step ⟨rfl, rfl, rfl⟩
  refine ⟨?_, ⟨Int.fract_nonneg _, Int.fract_lt_one _⟩, hkept.2.1.trans h.timer, h.timer_pos,
    hkept.2.2.trans h.frequency, h.within⟩
  have hprogram : s.cycled.program = s.program := step_program s
  rw [hprogram]
  exact h.fits

theorem cycled_iterate (h : Configured t k s) (i : Nat) :
    Configured t k (Session.cycled^[i] s) := by
  induction i generalizing s with
  | zero => exact h
  | succ i ih => exact ih h.cycled

theorem cycled_rate (h : Configured t k s) : s.cycled.rate = s.rate := by
  rw [h.cycled.rate_eq, h.rate_eq]

theorem cycle_done (h : Configured t k s) (hfew : s.dueNext < 2 ^ 31) :
    s.cycle s.rate = .done s.cycled ⌊s.dueNext⌋ := by
  rw [cycle_eq_settle h.fits]
  exact settle_eq h.dueNext_nonneg hfew

theorem cycle_breaks (h : Configured t k s) (hmany : 2 ^ 31 ≤ s.dueNext) :
    s.cycle s.rate =
      ⟨{ s.step.session with debt := Int.fract s.dueNext }, .error .outOfRange⟩ := by
  rw [cycle_eq_settle h.fits]
  exact settle_breaks hmany

/-- Cycles one after another, each of which gives the timers no more ticks than they take. -/
theorem cyclesWith_done {σ : Type} (h : Configured t k s) {n : Nat}
    (hfew : ∀ i < n, (Session.cycled^[i] s).dueNext < 2 ^ 31) (tell : σ → Int → σ) (p : σ) :
    cyclesWith tell s.rate n s p =
      (.done (Session.cycled^[n] s) (), (cycleTicks n s).foldl tell p) := by
  induction n generalizing s p with
  | zero => rfl
  | succ n ih =>
    have hrest := ih h.cycled (fun i hi => hfew (i + 1) (Nat.succ_lt_succ hi)) (tell p ⌊s.dueNext⌋)
    rw [h.cycled_rate] at hrest
    rw [cyclesWith, h.cycle_done (hfew 0 (Nat.succ_pos n))]
    exact hrest

theorem cyclesRun_cyclesTrace (h : Configured t k s) {n : Nat}
    (hfew : ∀ i < n, (Session.cycled^[i] s).dueNext < 2 ^ 31) :
    cyclesRun (cyclesTrace s.rate n s) = n := by
  induction n generalizing s with
  | zero => rfl
  | succ n ih =>
    have hrest := ih h.cycled fun i hi => hfew (i + 1) (Nat.succ_lt_succ hi)
    rw [h.cycled_rate] at hrest
    have htrace : cyclesTrace s.rate (n + 1) s =
        [.cycle s, .timers ⌊s.dueNext⌋] ++ cyclesTrace s.rate n s.cycled := by
      rw [cyclesTrace, repeatTrace, cycleTrace, h.cycle_done (hfew 0 (Nat.succ_pos n))]
      rfl
    rw [htrace, cyclesRun_append, hrest, Nat.add_comm]
    rfl

/-- The first cycle that gives more is the last. -/
theorem cyclesWith_breaks {σ : Type} (h : Configured t k s) {i n : Nat} (hi : i < n)
    (hmany : 2 ^ 31 ≤ (Session.cycled^[i] s).dueNext) (tell : σ → Int → σ) (p : σ) :
    (cyclesWith tell s.rate n s p).1.result = .error .outOfRange := by
  induction n generalizing s i p with
  | zero => exact absurd hi (Nat.not_lt_zero i)
  | succ n ih =>
    rw [cyclesWith]
    -- The cycle that fails may come before the one that is known to be too much.
    by_cases hfirst : 2 ^ 31 ≤ s.dueNext
    · rw [h.cycle_breaks hfirst]
    · rw [h.cycle_done (not_le.1 hfirst), ← h.cycled_rate]
      cases i with
      | zero => exact absurd hmany hfirst
      | succ i => exact ih h.cycled (Nat.lt_of_succ_lt_succ hi) hmany _

/-! ### Runs -/

/-- What a run that is not paused does. -/
theorem run_cycles (h : Configured t k s) (hpaused : s.paused = false) (n : Nat) :
    s.run n = cycles s.rate n s ⟨0, 0⟩ ∧ s.runTrace n = cyclesTrace s.rate n s ∧
      ∀ {σ : Type} (tell : σ → Int → σ) (p : σ), s.runWith tell n p =
        ((cyclesWith tell s.rate n s p).1.answering (n : Int),
          (cyclesWith tell s.rate n s p).2) := by
  have hzero : s.instructionFrequency ≠ 0 := h.frequency ▸ h.frequency_pos.ne'
  have hdiv : ClockArithmetic.div s.timerFrequency s.instructionFrequency = .ok s.rate :=
    if_neg hzero
  refine ⟨?_, ?_, fun tell p => ?_⟩
  · rw [run_eq, hpaused, hdiv]
    rfl
  · rw [runTrace, hpaused, hdiv]
    rfl
  · rw [runWith, hpaused, hdiv]
    rfl

/-- **A run comes to its end** if and only if in none of its cycles more ticks become due than the
timers take. -/
theorem completes_iff (h : Configured t k s) (hpaused : s.paused = false) (n : Nat) :
    s.Completes n ↔ ∀ i < n, (Session.cycled^[i] s).dueNext < 2 ^ 31 := by
  obtain ⟨hrun, htrace, hwith⟩ := h.run_cycles hpaused n
  constructor
  · intro hcompletes i hi
    -- With a cycle that gives too many the run would fail, whoever is told of it.
    by_contra hmany
    have hresult := congrArg (Outcome.result ∘ Prod.fst) (hcompletes.progress id ())
    have hbreaks := h.cyclesWith_breaks hi (not_lt.1 hmany) (fun p _ => id p) ()
    simp only [Function.comp, hwith, Outcome.answering, Outcome.next, hbreaks] at hresult
    cases hresult
  · intro hfew
    have hdone {σ : Type} (tell : σ → Int → σ) (p : σ) := h.cyclesWith_done hfew tell p
    have hsession : s.run n = .done (Session.cycled^[n] s) ⟨n, (cycleTicks n s).sum⟩ := by
      rw [hrun, cycles, hdone, foldl_add_work, length_cycleTicks, Nat.zero_add, zero_add]
      rfl
    refine ⟨⟨_, congrArg Outcome.result hsession⟩, congrArg Outcome.session hsession,
      fun update p => ?_, ?_⟩
    · rw [hwith, hdone, hsession, List.foldl_const, length_cycleTicks]
      rfl
    · rw [htrace, h.cyclesRun_cyclesTrace hfew]

/-- So it does if the quotient of the frequencies leaves room for the part of a tick. -/
theorem completes (h : Configured t k s) (hpaused : s.paused = false)
    (hle : t ≤ (2 ^ 31 - 1) * k) (n : Nat) : s.Completes n := by
  refine (h.completes_iff hpaused n).2 fun i _ => ?_
  have hs := h.cycled_iterate i
  have hrate : (t : Rat) / k ≤ 2 ^ 31 - 1 := by
    rw [div_le_iff₀ h.frequency_pos]
    exact_mod_cast hle
  rw [hs.dueNext_eq]
  linarith [hs.owes.step.2]

/-- **A run ends in its first cycle** if more ticks become due in it than the timers take. -/
theorem breaks (h : Configured t k s) (hpaused : s.paused = false) (hle : 2 ^ 31 * k ≤ t)
    {n : Nat} (hn : 0 < n) : s.Breaks n := by
  have hmany : 2 ^ 31 ≤ s.dueNext := by
    have hrate : (2 : Rat) ^ 31 ≤ t / k := by
      rw [le_div_iff₀ h.frequency_pos]
      exact_mod_cast hle
    rw [h.dueNext_eq]
    linarith [h.owes.step.1]
  have hcycle := h.cycle_breaks hmany
  obtain ⟨hrun, htrace, hwith⟩ := h.run_cycles hpaused n
  obtain ⟨n, rfl⟩ := Nat.exists_eq_succ_of_ne_zero hn.ne'
  rw [cycles_succ, hcycle] at hrun
  refine ⟨fun update p => ?_, ?_, ?_⟩
  · rw [hwith, hrun, cyclesWith, hcycle]
    rfl
  · rw [hrun]
    rfl
  · rw [htrace, cyclesTrace, repeatTrace, cycleTrace, hcycle]
    rfl

end Configured

theorem not_completes_of_breaks {s : Session Rat} {n : Nat} (h : s.Breaks n) : ¬ s.Completes n := by
  intro hcompletes
  have hsame := (h.progress id ()).symm.trans (hcompletes.progress id ())
  cases congrArg (Outcome.result ∘ Prod.fst) hsame

theorem create_configured {read : FileReader} {settings : SessionSettings Rat} {s : Session Rat}
    {f t : Int} (h : create read settings = .ok s) (hf : settings.instructionFrequency = f)
    (ht : settings.timerFrequency = t) : Configured t f s ∧ s.paused = false := by
  have hfits := (create_program h).2
  have hsame := (create_timed h).2
  have hdebt : s.debt = 0 := (loaded_of_create h).debt_eq
  obtain ⟨hfrequency, htimer, -⟩ := create_eq_ok h
  have hwithin : 1 ≤ f ∧ f ≤ 1000000 := by
    rw [frequencyAllowed, Bool.and_eq_true, le_eq_true, le_eq_true, hf] at hfrequency
    exact ⟨Int.cast_le.1 hfrequency.1, Int.cast_le.1 hfrequency.2⟩
  have hpos : 0 < t := by
    rw [← Bool.not_eq_true, le_eq_true, not_le, ht] at htimer
    exact Int.cast_lt.1 htimer
  have howes : Owes s := by
    rw [Owes, hdebt]
    exact ⟨le_rfl, zero_lt_one⟩
  exact ⟨⟨hfits, howes, hsame.timer.trans ht, hpos, hsame.instruction.trans hf, hwithin⟩,
    hsame.paused⟩

theorem after_halvings_paused (s : Session Rat) (n : Nat) :
    (s.after (List.replicate n .decreaseFrequency)).paused = s.paused := by
  induction n generalizing s with
  | zero => rfl
  | succ n ih =>
    obtain ⟨_, _, hset⟩ := setFrequency_session s
      (ClockArithmetic.larger (leastFrequency : Int)
        (ClockArithmetic.floorHalf s.instructionFrequency))
    exact (ih s.decreaseFrequency.session).trans ((congrArg paused hset).trans rfl)

/-- **All runs come to their end exactly if the timer frequency is below `2 ^ 31`.** Take a session
set up with integer frequencies, `t` for the timers. Whatever is done to it, the instruction
frequency stays an integer `k` from 1 to 1000000, unless another one is assigned. A run of `n` cycles
that is not paused returns `n`, after `n` cycles and `n` updates of its progress, if and only if
before each of them the debt leaves room for `t / k` among less than `2 ^ 31` ticks. While
`t ≤ (2 ^ 31 - 1) * k`, it always does. Once `2 ^ 31 * k ≤ t`, every run of a cycle or more ends with
a fault within its first: the instruction is executed, and the ticks are neither given nor owed any
longer. Since halving brings `k` to 1, and no lower, all runs come to their end if `t` is below
`2 ^ 31`, and only then. -/
theorem runs_complete_iff {read : FileReader} {settings : SessionSettings Rat} {s₀ : Session Rat}
    {f t : Int} (hcreate : create read settings = .ok s₀)
    (hf : settings.instructionFrequency = f) (ht : settings.timerFrequency = t) :
    (∀ ops : List (Operation Rat), (∀ op ∈ ops, op.keepsLimits = true) →
      let s := s₀.after ops
      ∃ k : Int, s.instructionFrequency = k ∧ (1 ≤ k ∧ k ≤ 1000000) ∧
        (s.paused = false → ∀ n, s.Completes n ↔
          ∀ i < n, (cycled^[i] s).step.session.debt + (t : Rat) / k < 2 ^ 31) ∧
        (s.paused = false → t ≤ (2 ^ 31 - 1) * k → ∀ n, s.Completes n) ∧
        (s.paused = false → 2 ^ 31 * k ≤ t → ∀ n, 0 < n → s.Breaks n)) ∧
    ((∀ ops : List (Operation Rat), (∀ op ∈ ops, op.keepsLimits = true) →
      (s₀.after ops).paused = false → ∀ n, (s₀.after ops).Completes n) ↔ t < 2 ^ 31) := by
  obtain ⟨hs₀, hpaused₀⟩ := create_configured hcreate hf ht
  refine ⟨fun ops hops => ?_, fun hall => ?_, fun hlt ops hops hpaused n => ?_⟩
  · have hs := hs₀.after hops
    refine ⟨_, hs.frequency, hs.within, fun hpaused n => ?_, hs.completes,
      fun hpaused hle n => hs.breaks hpaused hle⟩
    simp only [hs.completes_iff hpaused, (hs.cycled_iterate _).dueNext_eq]
  · by_contra hge
    -- Twenty halvings are enough from any instruction frequency.
    have hops : ∀ op ∈ List.replicate 20 (.decreaseFrequency : Operation Rat),
        op.keepsLimits = true := fun op hop => by rw [List.eq_of_mem_replicate hop]; rfl
    have hs := hs₀.after hops
    have hone := frequencyAfter_halvings (κ := Rat) (n := 20) hs₀.within.1
      (hs₀.within.2.trans (by norm_num))
    have hpaused := (after_halvings_paused s₀ 20).trans hpaused₀
    rw [hone] at hs
    exact not_completes_of_breaks (hs.breaks hpaused (by omega) Nat.one_pos)
      (hall _ hops hpaused 1)
  · have hs := hs₀.after hops
    have hk := hs.within.1
    exact hs.completes hpaused (by nlinarith) n

/-- A program that crashes in every second cycle, in the end with the most ticks a cycle that the
timers take. -/
theorem runs_complete_iff_crashing :
    let read : FileReader := fun _ => .error .zeroInPath
    let settings : SessionSettings Rat := ⟨none, 2, 2147483647, 0⟩
    let ops : List (Operation Rat) := [.loadProgram [0x60, 0x07, 0x00, 0xEE], .run 3,
      .decreaseFrequency, .togglePause, .sync 10, .decreaseFrequency, .togglePause, .runFor 2]
    let s := (fresh settings).after ops
    create read settings = .ok (fresh settings) ∧ s.instructionFrequency = 1 ∧
      s.failure = some ⟨"StackFault: stack underflow: pop with sp=0x00", 1⟩ ∧ s.Completes 5 := by
  intro read settings ops s
  have hcreate : create read settings = .ok (fresh settings) :=
    create_fresh rfl (by decide +kernel) (by decide +kernel) (by decide) _
  obtain ⟨hpaused, hfrequency, hfailure⟩ : s.paused = false ∧ s.instructionFrequency = 1 ∧
      s.failure = some ⟨"StackFault: stack underflow: pop with sp=0x00", 1⟩ := by decide +kernel
  obtain ⟨-, hall⟩ := runs_complete_iff hcreate (f := 2) (t := 2147483647) rfl rfl
  exact ⟨hcreate, hfrequency, hfailure, hall.2 (by decide) ops (by decide) hpaused 5⟩

/-- A session that is accepted, and the first cycle of which fails, with exact rationals and with
the numbers of a front end alike. -/
theorem run_breaks_at_one_hertz :
    let read : FileReader := fun _ => .error .zeroInPath
    let settings : SessionSettings Rat := ⟨none, 1, 2147483648, 0⟩
    let rounded : SessionSettings Number := ⟨none, .integer 1, .integer 2147483648, 0⟩
    create read settings = .ok (fresh settings) ∧ create read rounded = .ok (fresh rounded) ∧
      ((fresh settings).run 1).result = .error .outOfRange ∧
      ((fresh rounded).run 1).result = .error .outOfRange := by
  intro read settings rounded
  exact ⟨create_fresh rfl (by decide +kernel) (by decide +kernel) (by decide) _,
    create_fresh rfl (by decide +kernel) (by decide +kernel) (by decide) _, by decide +kernel,
    by decide +kernel⟩

end Session

end Chip8
