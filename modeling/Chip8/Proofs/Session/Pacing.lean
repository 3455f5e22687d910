import Chip8.Proofs.Session.Recovery

/-!
# Pacing by cycles

A session that runs cycles gives its timers the ticks that fall due in them, and carries the rest
from one cycle to the next as its debt. Frequencies and debts are exact rationals here.

**One cycle** (`cycle_eq`). With a debt that has become due, the timers get its floor, and its
fraction is kept. So if the debt was the fraction of all that has become due before, it is the
fraction of all that is due after, and the ticks given are the difference of the two floors
(`steady_cycle`).

**Runs** (`Paid`). The differences add up: after any number of cycles the timers have got the floor
of the sum, over calls of `run` and changes of the frequency between them (`run_loses_no_tick`).

**Parts of a run** (`run_add`). A run of some cycles is a run of the first of them and a run of the
rest, whatever the numbers are and whatever happens in it.
-/

namespace Chip8

/-! ## Whole ticks -/

theorem trunc_eq_floor {q : Rat} (h : 0 ≤ q) : ClockArithmetic.trunc q = .ok ⌊q⌋ := by
  show Except.ok (q.num.tdiv q.den) = _
  rw [Int.tdiv_eq_ediv_of_nonneg (Rat.num_nonneg.2 h), ← Rat.floor_def']

theorem fract_add_eq (owed rate : Rat) : Int.fract owed + rate = owed + rate - ⌊owed⌋ := by
  rw [← Int.self_sub_floor]
  ring

theorem floor_fract_add (owed rate : Rat) : ⌊Int.fract owed + rate⌋ = ⌊owed + rate⌋ - ⌊owed⌋ := by
  rw [fract_add_eq, Int.floor_sub_intCast]

theorem fract_fract_add (owed rate : Rat) :
    Int.fract (Int.fract owed + rate) = Int.fract (owed + rate) := by
  rw [fract_add_eq, Int.fract_sub_intCast]

namespace Session

theorem tickTimers_eq {κ : Type} (s : Session κ) {n : Int} (h0 : 0 ≤ n) (h : n < 2 ^ 31) :
    s.tickTimers n = .ok { s with machine := s.machine.tickTimers (Int32.ofInt n) } := by
  rw [tickTimers, narrow_eq_ok (by omega)]
  split
  · next hzero =>
    subst hzero
    show _ = Except.ok { s with machine := s.machine.tickTimers 0 }
    rw [Machine.tickTimers_zero]
  · rfl

/-- The part of a timer tick that becomes due with a cycle. -/
def rate (s : Session Rat) : Rat := s.timerFrequency / s.instructionFrequency

/-! ## One cycle -/

/-- The session without the whole ticks of its debt. -/
def paid (s : Session Rat) : Session Rat := { s with debt := Int.fract s.debt }

/-- The whole ticks are taken out of the debt before the timers get them. -/
theorem settle_paid {s : Session Rat} (h0 : 0 ≤ s.debt) :
    s.settle =
      (s.paid.attempt (s.paid.tickTimers ⌊s.debt⌋)).next fun t _ => .done t ⌊s.debt⌋ := by
  rw [settle, trunc_eq_floor h0]
  by_cases hdue : ⌊s.debt⌋ = 0
  · have hfract : Int.fract s.debt = s.debt := by
      rw [← Int.self_sub_floor, hdue, Int.cast_zero, sub_zero]
    have hpaid : s.paid = s := by rw [paid, hfract]
    rw [hdue, hpaid]
    rfl
  · have hpay : s.payDebt ⌊s.debt⌋ = .ok s.paid := by
      rw [paid, ← Int.self_sub_floor]
      rfl
    simp only [if_neg hdue, hpay]
    rfl

theorem settle_eq {s : Session Rat} (h0 : 0 ≤ s.debt) (hlt : s.debt < 2 ^ 31) :
    s.settle = .done { s with
      machine := s.machine.tickTimers (Int32.ofInt ⌊s.debt⌋), debt := Int.fract s.debt } ⌊s.debt⌋ := by
  have hfloor0 : 0 ≤ ⌊s.debt⌋ := Int.floor_nonneg.2 h0
  have hfloor : ⌊s.debt⌋ < 2 ^ 31 := Int.floor_lt.2 (by exact_mod_cast hlt)
  rw [settle_paid h0, tickTimers_eq s.paid hfloor0 hfloor]
  rfl

theorem cycle_eq {s : Session Rat} {machine : Machine} {status : Status} (perCycle : Rat)
    (htick : s.machine.tick = .ok (machine, status)) (h0 : 0 ≤ s.debt + perCycle)
    (hlt : s.debt + perCycle < 2 ^ 31) :
    ∃ instructions, s.cycle perCycle = .done { s with
      machine := machine.tickTimers (Int32.ofInt ⌊s.debt + perCycle⌋), status, instructions,
      debt := Int.fract (s.debt + perCycle) } ⌊s.debt + perCycle⌋ := by
  obtain ⟨instructions, hcounted⟩ := counted_eq { s with machine, status }
  refine ⟨instructions, ?_⟩
  rw [cycle, step_of_tick htick, hcounted]
  exact settle_eq (s := { s with machine, status, instructions, debt := s.debt + perCycle }) h0 hlt

/-- The debt is the fraction of what has become due, and frequencies are such that more does. -/
structure Steady (s : Session Rat) (owed : Rat) : Prop where
  debt : s.debt = Int.fract owed
  paused : s.paused = false
  timer : 0 ≤ s.timerFrequency
  frequency : 0 < s.instructionFrequency

theorem Steady.rate_nonneg {s : Session Rat} {owed : Rat} (h : Steady s owed) : 0 ≤ s.rate :=
  div_nonneg h.timer h.frequency.le

end Session

/-- A cycle does not fault, and its ticks fit the machine's arithmetic. -/
def Event.Regular : Event Rat → Prop
  | .cycle s => (∃ r, s.machine.tick = .ok r) ∧ s.rate < 2 ^ 31 - 1
  | .timers _ => True

instance : DecidablePred Event.Regular
  | .cycle s =>
    have : Decidable (∃ r, s.machine.tick = .ok r) :=
      match s.machine.tick with
      | .ok r => .isTrue ⟨r, rfl⟩
      | .error _ => .isFalse fun ⟨_, h⟩ => nomatch h
    inferInstanceAs (Decidable (_ ∧ _))
  | .timers _ => .isTrue trivial

namespace Session

theorem steady_cycle {s : Session Rat} {owed : Rat} (hs : Steady s owed)
    (hregular : (Event.cycle s).Regular) :
    ∃ t, s.cycle s.rate = .done t (⌊owed + s.rate⌋ - ⌊owed⌋) ∧ Steady t (owed + s.rate) ∧
      t.rate = s.rate := by
  obtain ⟨⟨⟨machine, status⟩, htick⟩, hrate⟩ := hregular
  have h0 := Int.fract_nonneg owed
  have h1 := Int.fract_lt_one owed
  have hnonneg := hs.rate_nonneg
  obtain ⟨instructions, hcycle⟩ := cycle_eq s.rate htick
    (by rw [hs.debt]; linarith) (by rw [hs.debt]; linarith)
  rw [hs.debt, floor_fract_add, fract_fract_add] at hcycle
  exact ⟨_, hcycle, ⟨rfl, hs.paused, hs.timer, hs.frequency⟩, rfl⟩

end Session

/-! ## Runs -/

/-- The part of a timer tick that becomes due with an event. -/
def Event.due : Event Rat → Rat
  | .cycle s => s.rate
  | .timers _ => 0

/-- The timer ticks, parts included, that become due along a trace. -/
def ticksDue (events : List (Event Rat)) : Rat := (events.map Event.due).sum

/-- Along a trace the sum of what is due rises from `owed`: each cycle starts with the fraction of it
as its debt, and is followed by the whole ticks that it completes. -/
inductive Paid : Rat → List (Event Rat) → Prop
  | nil (owed : Rat) : Paid owed []
  | cycle {owed : Rat} {s : Session Rat} {events : List (Event Rat)}
      (hdebt : s.debt = Int.fract owed) (h : Paid (owed + s.rate) events) :
      Paid owed (.cycle s :: .timers (⌊owed + s.rate⌋ - ⌊owed⌋) :: events)

theorem ticksDue_cycle (s : Session Rat) (ticks : Int) (events : List (Event Rat)) :
    ticksDue (.cycle s :: .timers ticks :: events) = s.rate + ticksDue events := by
  simp [ticksDue, Event.due]

theorem ticksGiven_cycle {κ : Type} (s : Session κ) (ticks : Int) (events : List (Event κ)) :
    ticksGiven (.cycle s :: .timers ticks :: events) = ticks + ticksGiven events := by
  simp [ticksGiven, Event.ticks]

namespace Paid

theorem append {owed : Rat} {a b : List (Event Rat)} (ha : Paid owed a)
    (hb : Paid (owed + ticksDue a) b) : Paid owed (a ++ b) := by
  induction ha with
  | nil owed =>
    have hzero : owed + ticksDue [] = owed := add_zero owed
    rw [hzero] at hb
    exact hb
  | cycle hdebt _ ih =>
    rw [ticksDue_cycle, ← add_assoc] at hb
    exact .cycle hdebt (ih hb)

/-- What is given is the difference of the floors of what is due after and before. -/
theorem ticksGiven_eq {owed : Rat} {events : List (Event Rat)} (h : Paid owed events) :
    ticksGiven events = ⌊owed + ticksDue events⌋ - ⌊owed⌋ := by
  induction h with
  | nil owed =>
    have hzero : owed + ticksDue [] = owed := add_zero owed
    rw [hzero, sub_self]
    rfl
  | cycle _ _ ih =>
    rw [ticksGiven_cycle, ticksDue_cycle, ih, add_assoc]
    ring

/-- The same holds up to each of its cycles, and the debt there is the fraction. -/
theorem before_cycle {owed : Rat} {events before after : List (Event Rat)} {s : Session Rat}
    (h : Paid owed events) (hsplit : events = before ++ .cycle s :: after) :
    Paid owed before ∧ s.debt = Int.fract (owed + ticksDue before) := by
  induction h generalizing before with
  | nil owed => simp at hsplit
  | @cycle owed u events hdebt h ih =>
    match before, hsplit with
    | [], hsplit =>
      cases hsplit
      refine ⟨.nil owed, ?_⟩
      rw [hdebt]
      exact congrArg Int.fract (add_zero owed).symm
    | [e], hsplit => simp at hsplit
    | e :: e' :: before, hsplit =>
      simp only [List.cons_append, List.cons.injEq] at hsplit
      obtain ⟨rfl, rfl, hrest⟩ := hsplit
      obtain ⟨hpaid, hs⟩ := ih hrest
      rw [ticksDue_cycle, ← add_assoc]
      exact ⟨.cycle hdebt hpaid, hs⟩

end Paid

namespace Session

theorem steady_cycles {s : Session Rat} {owed : Rat} {n : Nat} (w : Work) (hs : Steady s owed)
    (hregular : ∀ e ∈ cyclesTrace s.rate n s, e.Regular) :
    ∃ t w', cycles s.rate n s w = .done t w' ∧ Steady t (owed + n * s.rate) ∧
      Paid owed (cyclesTrace s.rate n s) ∧ ticksDue (cyclesTrace s.rate n s) = n * s.rate := by
  -- The sum of what is due is the invariant; the debt is only its fraction.
  induction n generalizing s owed w with
  | zero =>
    refine ⟨s, w, rfl, ?_, .nil owed, ?_⟩
    · rw [Nat.cast_zero, zero_mul, add_zero]
      exact hs
    · rw [Nat.cast_zero, zero_mul]
      rfl
  | succ n ih =>
    have hfirst : (Event.cycle s).Regular := hregular _ List.mem_cons_self
    obtain ⟨t, hcycle, ht, hrate⟩ := steady_cycle hs hfirst
    have htrace : cyclesTrace s.rate (n + 1) s =
        .cycle s :: .timers (⌊owed + s.rate⌋ - ⌊owed⌋) :: cyclesTrace t.rate n t := by
      rw [cyclesTrace, repeatTrace, cycleTrace, hcycle, hrate]
      rfl
    rw [htrace] at hregular ⊢
    obtain ⟨u, w', hcycles, hu, hpaid, hdue⟩ := ih (w.add (⌊owed + s.rate⌋ - ⌊owed⌋)) ht
      fun e he => hregular e (List.mem_cons_of_mem _ (List.mem_cons_of_mem _ he))
    rw [hrate] at hcycles hu hdue
    have hsum : s.rate + n * s.rate = (n + 1 : Nat) * s.rate := by
      push_cast
      ring
    refine ⟨u, w', ?_, ?_, .cycle hs.debt hpaid, ?_⟩
    · rw [cycles_succ, hcycle]
      exact hcycles
    · rw [← hsum, ← add_assoc]
      exact hu
    · rw [ticksDue_cycle, hrate, hdue, hsum]

end Session

/-- A run of cycles, or a change of the instruction frequency to a positive one. -/
def Operation.Paces : Operation Rat → Prop
  | .run n => 0 ≤ n
  | .increaseFrequency | .decreaseFrequency => True
  | .assignFrequency f => 0 < f
  | _ => False

instance : DecidablePred Operation.Paces
  | .run n => inferInstanceAs (Decidable (0 ≤ n))
  | .increaseFrequency | .decreaseFrequency => .isTrue trivial
  | .assignFrequency f => inferInstanceAs (Decidable (0 < f))
  | .loadProgram _ | .loadRom _ _ | .reset | .step | .runFor _ | .sync _ | .tickTimers _
  | .pressKey _ | .releaseKey _ | .toggleKey _ | .togglePause => .isFalse id

namespace Session

/-- What becomes due in an operation: the cycles of a run times the quotient of the frequencies. -/
def dueIn (s : Session Rat) : Operation Rat → Rat
  | .run n => n * (s.timerFrequency / s.instructionFrequency)
  | _ => 0

/-- What becomes due in some operations. -/
def dueAfter (s : Session Rat) : List (Operation Rat) → Rat
  | [] => 0
  | op :: ops => s.dueIn op + (s.operate op).session.dueAfter ops

/-- Every operation succeeds, in its turn. -/
def Succeeds {κ : Type} [ClockArithmetic κ] (s : Session κ) : List (Operation κ) → Prop
  | [] => True
  | op :: ops => (s.operate op).result = .ok () ∧ (s.operate op).session.Succeeds ops

theorem smaller_pos {a b : Rat} (ha : 0 < a) (hb : 0 < b) : 0 < ClockArithmetic.smaller a b := by
  unfold ClockArithmetic.smaller
  split
  · exact hb
  · exact ha

theorem larger_pos {a : Rat} (ha : 0 < a) (b : Rat) : 0 < ClockArithmetic.larger a b := by
  unfold ClockArithmetic.larger
  split
  · next h =>
    have hab : a < b := of_decide_eq_true h
    exact ha.trans hab
  · exact ha

/-- An exact rational always has a text, so only the frequency and the log change. -/
theorem setFrequency_eq (s : Session Rat) (f : Rat) :
    ∃ log, s.setFrequency f = .done { s with instructionFrequency := f, log } () := by
  unfold setFrequency
  split
  · next hsame =>
    obtain rfl : f = s.instructionFrequency := of_decide_eq_true hsame
    exact ⟨_, rfl⟩
  · exact ⟨_, rfl⟩

theorem Steady.setFrequency {s : Session Rat} {owed f : Rat} (hs : Steady s owed) (hf : 0 < f) :
    (s.setFrequency f).result = .ok () ∧ Steady (s.setFrequency f).session owed := by
  obtain ⟨log, hset⟩ := setFrequency_eq s f
  rw [hset]
  exact ⟨rfl, hs.debt, hs.paused, hs.timer, hf⟩

theorem steady_operate {s : Session Rat} {owed : Rat} {op : Operation Rat} (hs : Steady s owed)
    (hop : op.Paces) (hregular : ∀ e ∈ s.operateTrace op, e.Regular) :
    (s.operate op).result = .ok () ∧ Steady (s.operate op).session (owed + s.dueIn op) ∧
      Paid owed (s.operateTrace op) ∧ ticksDue (s.operateTrace op) = s.dueIn op := by
  have hstill (t : Session Rat) (ht : Steady t owed) : Steady t (owed + 0) := by
    rw [add_zero]
    exact ht
  cases op with
  | run n =>
    have hdiv : ClockArithmetic.div s.timerFrequency s.instructionFrequency = .ok s.rate :=
      if_neg hs.frequency.ne'
    have hn : ((n.toNat : Nat) : Rat) = n := by exact_mod_cast Int.toNat_of_nonneg hop
    have htrace : s.operateTrace (.run n) = cyclesTrace s.rate n.toNat s := by
      rw [operateTrace, runTrace, hs.paused, hdiv]
      rfl
    rw [htrace] at hregular ⊢
    obtain ⟨t, w', hcycles, ht, hpaid, hdue⟩ := steady_cycles ⟨0, 0⟩ hs hregular
    have hrun : s.run n = .done t w' := by
      rw [run_eq, hs.paused, hdiv]
      exact hcycles
    rw [hn] at ht hdue
    rw [operate, hrun]
    exact ⟨rfl, ht, hpaid, hdue⟩
  | increaseFrequency =>
    have hpos : 0 < ClockArithmetic.smaller (ClockArithmetic.ofInt greatestFrequency)
        (s.instructionFrequency * 2) :=
      smaller_pos (Int.cast_pos.2 (by decide)) (mul_pos hs.frequency two_pos)
    obtain ⟨hresult, hset⟩ := hs.setFrequency hpos
    exact ⟨hresult, hstill _ hset, .nil owed, rfl⟩
  | decreaseFrequency =>
    have hpos : 0 < ClockArithmetic.larger (ClockArithmetic.ofInt leastFrequency)
        (ClockArithmetic.floorHalf s.instructionFrequency) :=
      larger_pos (Int.cast_pos.2 (by decide)) _
    obtain ⟨hresult, hset⟩ := hs.setFrequency hpos
    exact ⟨hresult, hstill _ hset, .nil owed, rfl⟩
  | assignFrequency f =>
    exact ⟨rfl, hstill _ ⟨hs.debt, hs.paused, hs.timer, hop⟩, .nil owed, rfl⟩
  | _ => exact hop.elim

theorem steady_after {s : Session Rat} {owed : Rat} {ops : List (Operation Rat)}
    (hs : Steady s owed) (hops : ∀ op ∈ ops, op.Paces) (hregular : ∀ e ∈ s.trace ops, e.Regular) :
    s.Succeeds ops ∧ Steady (s.after ops) (owed + s.dueAfter ops) ∧ Paid owed (s.trace ops) ∧
      ticksDue (s.trace ops) = s.dueAfter ops := by
  induction ops generalizing s owed with
  | nil =>
    refine ⟨trivial, ?_, .nil owed, rfl⟩
    rw [dueAfter, add_zero]
    exact hs
  | cons op ops ih =>
    obtain ⟨hresult, ht, hpaid, hdue⟩ := steady_operate hs (hops op List.mem_cons_self)
      fun e he => hregular e (List.mem_append_left _ he)
    obtain ⟨hsucceeds, hafter, hrest, hdueRest⟩ := ih ht
      (fun o ho => hops o (List.mem_cons_of_mem _ ho))
      fun e he => hregular e (List.mem_append_right _ he)
    refine ⟨⟨hresult, hsucceeds⟩, ?_, ?_, ?_⟩
    · rw [dueAfter, ← add_assoc]
      exact hafter
    · exact hpaid.append (hdue ▸ hrest)
    · rw [trace, dueAfter, ticksDue, List.map_append, List.sum_append]
      exact congrArg₂ (· + ·) hdue hdueRest

end Session

/-! ## Parts of a run -/

namespace Outcome

variable {κ α β γ : Type}

theorem next_next (o : Outcome κ α) (f : Session κ → α → Outcome κ β)
    (g : Session κ → β → Outcome κ γ) :
    (o.next f).next g = o.next fun s a => (f s a).next g := by
  unfold next
  cases o.result <;> rfl

theorem next_congr {o : Outcome κ α} {f g : Session κ → α → Outcome κ β}
    (h : ∀ a, f o.session a = g o.session a) : o.next f = o.next g := by
  unfold next
  cases o.result with
  | ok a => exact h a
  | error e => rfl

end Outcome

namespace Session

/-- Work done before and work done after. -/
def Work.append (v w : Work) : Work := ⟨v.cycles + w.cycles, v.ticks + w.ticks⟩

variable {κ : Type} [ClockArithmetic κ]

theorem cycles_append (perCycle : κ) (n : Nat) (s : Session κ) (v w : Work) :
    cycles perCycle n s (v.append w) =
      (cycles perCycle n s w).next fun t w => .done t (v.append w) := by
  induction n generalizing s w with
  | zero => rfl
  | succ n ih =>
    rw [cycles_succ, cycles_succ, Outcome.next_next]
    congr 1
    funext t ticks
    rw [← ih]
    congr 1
    simp only [Work.append, Work.add, Work.mk.injEq]
    omega

theorem cycles_add (perCycle : κ) (a b : Nat) (s : Session κ) (w : Work) :
    cycles perCycle (a + b) s w =
      (cycles perCycle a s w).next fun t w => cycles perCycle b t w := by
  induction a generalizing s w with
  | zero => rw [Nat.zero_add]; rfl
  | succ a ih =>
    rw [Nat.succ_add, cycles_succ, cycles_succ, Outcome.next_next]
    congr 1
    funext t ticks
    exact ih t _

/-- Running does not touch the frequencies and the pause. -/
theorem kept_settings (paused : Bool) (t f : κ) : Kept fun s : Session κ =>
    s.paused = paused ∧ s.timerFrequency = t ∧ s.instructionFrequency = f where
  step {s} hs := by
    have h := stepped s
    generalize s.step.session = u at h ⊢
    cases h <;> exact hs
  timers _ hs := hs
  debt _ hs := hs
  clock _ hs := hs
  lastSync _ hs := hs

/-- **A run is the run of its first cycles and the run of the rest**, also where it fails. -/
theorem run_add (s : Session κ) (a b : Nat) :
    s.run (a + b : Nat) = (s.run a).next fun t v =>
      (t.run b).next fun u w => .done u (v.append w) := by
  cases hpaused : s.paused with
  | true =>
    have hrun (n : Int) : s.run n = .done s ⟨0, 0⟩ := by rw [run_eq, hpaused, if_pos rfl]
    rw [hrun, hrun]
    show _ = (s.run b).next fun u w => .done u (Work.append ⟨0, 0⟩ w)
    rw [hrun]
    rfl
  | false =>
    cases hdiv : ClockArithmetic.div s.timerFrequency s.instructionFrequency with
    | error e =>
      have hrun (n : Int) : s.run n = ⟨s, .error e⟩ := by
        rw [run_eq, hpaused, hdiv]
        rfl
      rw [hrun, hrun]
      rfl
    | ok perCycle =>
      have hrun {t : Session κ} (n : Nat) (ht : t.paused = s.paused ∧
          t.timerFrequency = s.timerFrequency ∧ t.instructionFrequency = s.instructionFrequency) :
          t.run n = cycles perCycle n t ⟨0, 0⟩ := by
        rw [run_eq, ht.1, hpaused, ht.2.1, ht.2.2, hdiv, Int.toNat_natCast]
        rfl
      have hkept := (kept_settings s.paused s.timerFrequency s.instructionFrequency).traced.cycles
        perCycle a s ⟨0, 0⟩ ⟨rfl, rfl, rfl⟩
      rw [hrun (a + b) ⟨rfl, rfl, rfl⟩, hrun a ⟨rfl, rfl, rfl⟩, cycles_add]
      refine Outcome.next_congr fun v => ?_
      have hv : v.append ⟨0, 0⟩ = v := by simp only [Work.append, add_zero]
      rw [hrun b hkept, ← cycles_append, hv]

theorem operate_machine_of_paces (s : Session Rat) {op : Operation Rat} (hop : op.Paces)
    (hidle : op.runs = false) : (s.operate op).session.machine = s.machine := by
  cases op with
  | run n => cases hidle
  | increaseFrequency =>
    obtain ⟨_, _, hset⟩ := increaseFrequency_session s
    exact (congrArg machine hset).trans rfl
  | decreaseFrequency =>
    obtain ⟨_, _, hset⟩ := setFrequency_session s _
    exact (congrArg machine hset).trans rfl
  | assignFrequency f => rfl
  | _ => exact hop.elim

/-- **No timer tick is lost**, and none is given twice. Take any runs of cycles, with changes of the
instruction frequency between them, from a session without debt that is not paused. If no cycle
faults, all calls succeed, and the timers get the floor of the sum of `n * t / f` over the runs.
They have got the floor of what was due up to there before every cycle as well, so each tick is given
in the cycle that completes it, and the debt stays below one tick. -/
theorem run_loses_no_tick {s : Session Rat} (hdebt : s.debt = 0) (hpaused : s.paused = false)
    (htimer : 0 ≤ s.timerFrequency) (hfrequency : 0 < s.instructionFrequency)
    {ops : List (Operation Rat)} (hops : ∀ op ∈ ops, op.Paces)
    (hregular : ∀ e ∈ s.trace ops, e.Regular) :
    s.Succeeds ops ∧
      (ticksGiven (s.trace ops) = ⌊s.dueAfter ops⌋ ∧
        0 ≤ (s.after ops).debt ∧ (s.after ops).debt < 1) ∧
      (∀ before u after, s.trace ops = before ++ .cycle u :: after →
        ticksGiven before = ⌊ticksDue before⌋ ∧ 0 ≤ u.debt ∧ u.debt < 1) ∧
      (s.machine.play ((s.trace ops).map Event.beat)).result = .ok (s.after ops).machine ∧
      ∀ (u : Session Rat) (a b : Nat), u.run (a + b : Nat) = (u.run a).next fun v w =>
        (v.run b).next fun v' w' => .done v' (w.append w') := by
  have hs : Steady s 0 := ⟨hdebt.trans Int.fract_zero.symm, hpaused, htimer, hfrequency⟩
  obtain ⟨hsucceeds, hafter, hpaid, hdue⟩ := steady_after hs hops hregular
  have hgiven {events : List (Event Rat)} (h : Paid 0 events) :
      ticksGiven events = ⌊ticksDue events⌋ := by
    rw [h.ticksGiven_eq, zero_add, Int.floor_zero, sub_zero]
  refine ⟨hsucceeds, ⟨?_, ?_, ?_⟩, fun before u after hsplit => ?_, ?_, run_add⟩
  · rw [hgiven hpaid, hdue]
  · rw [hafter.debt]
    exact Int.fract_nonneg _
  · rw [hafter.debt]
    exact Int.fract_lt_one _
  · obtain ⟨hbefore, hu⟩ := hpaid.before_cycle hsplit
    rw [hu]
    exact ⟨hgiven hbefore, Int.fract_nonneg _, Int.fract_lt_one _⟩
  · refine traced_play.after (fun t op hop hidle _ => ?_) s fun u hu => (hregular _ hu).1
    rw [operate_machine_of_paces t (hops op hop) hidle]
    rfl

/-- A timer that is set to 60, and three runs: a cycle takes less than a tick in the first, and more
in the others. -/
theorem run_loses_no_tick_tuned :
    let settings : SessionSettings Rat := ⟨none, 90, 60, 0⟩
    let s := (fresh settings).after [.loadProgram [0x60, 0x3C, 0xF0, 0x15, 0x12, 0x04]]
    let ops : List (Operation Rat) :=
      [.run 4, .assignFrequency 25, .run 1, .increaseFrequency, .run 1]
    s.debt = 0 ∧ s.paused = false ∧ 0 ≤ s.timerFrequency ∧ 0 < s.instructionFrequency ∧
      (∀ op ∈ ops, op.Paces) ∧ (∀ e ∈ s.trace ops, e.Regular) ∧
      ticksGiven (s.trace ops) = 6 ∧ (s.after ops).machine.delay = 54 := by
  intro settings s ops
  have hops : ∀ op ∈ ops, op.Paces := by decide +kernel
  have hregular : ∀ e ∈ s.trace ops, e.Regular := by decide +kernel
  obtain ⟨-, ⟨hgiven, -, -⟩, -, -⟩ := run_loses_no_tick (s := s) rfl rfl (by decide +kernel)
    (by decide +kernel) hops hregular
  have hdue : ⌊s.dueAfter ops⌋ = 6 := by decide +kernel
  exact ⟨rfl, rfl, by decide +kernel, by decide +kernel, hops, hregular, hgiven.trans hdue,
    by decide +kernel⟩

end Session

end Chip8
