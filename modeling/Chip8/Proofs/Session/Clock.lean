import Chip8.Proofs.Session.Pacing

/-!
# Pacing by time

A session that follows an outer clock runs the cycles and gives the timer ticks whose period
boundaries its own clock crosses. Clock readings and frequencies are exact rationals here.

**The session's clock** (`spans`). It advances by the time between two synchronisations, if the
second is made while the session is not paused. The first one, and any that is made while the
session is paused, only remembers the time (`sync_idle`).

**Work** (`worked`). Cycles one after another and then timer ticks are what a synchronisation makes of
a session, once its clock has caught up (`Synchronised`). No cycle in it fails, since a crash is
recovered from and leaves clock and frequencies alone (`SameTime`).

**One synchronisation** (`sync_accounted`). The cycles and the ticks that it reports are the difference
of two floors each, at the clock after it and at the clock before it.

**Many** (`Accounted`). The differences add up over any operations that leave the time to
synchronisations (`after_accounted`). For a new session, whose clock starts at zero, the totals are
the floors of the whole unpaused time by the frequencies, however it is cut (`sync_totals`).
-/

namespace Chip8

variable {κ : Type}

/-! ## The time of a history -/

namespace Operation

/-- A synchronisation, or an operation that neither runs the machine nor changes its frequency. -/
def keepsTime : Operation κ → Bool
  | .sync _ | .togglePause => true
  | .loadProgram _ | .loadRom _ _ | .reset => true
  | .pressKey _ | .releaseKey _ | .toggleKey _ => true
  | _ => false

/-- The time of a synchronisation. -/
def time? : Operation κ → Option κ
  | .sync now => some now
  | _ => none

/-- The time of the last synchronisation, after an operation. -/
def remembered (op : Operation κ) (last : Option κ) : Option κ := op.time? <|> last

theorem remembered_of_none {op : Operation κ} (h : op.time? = none) (last : Option κ) :
    op.remembered last = last := by
  rw [remembered, h]
  rfl

theorem remembered_of_some {op : Operation κ} {now : κ} (h : op.time? = some now)
    (last : Option κ) : op.remembered last = some now := by
  rw [remembered, h]
  rfl

/-- The session is paused, after an operation. -/
def pauses (op : Operation κ) (paused : Bool) : Bool :=
  match op with
  | .togglePause => !paused
  | _ => paused

/-- The span from the last synchronisation to this one, unless the session is paused. -/
def span (op : Operation Rat) (last : Option Rat) (paused : Bool) : List Rat :=
  match op.time?, last, paused with
  | some now, some last, false => [now - last]
  | _, _, _ => []

end Operation

/-- The spans of time between synchronisations, those that end while the session is paused left
out. -/
def spans (last : Option Rat) (paused : Bool) : List (Operation Rat) → List Rat
  | [] => []
  | op :: ops => op.span last paused ++ spans (op.remembered last) (op.pauses paused) ops

def times (ops : List (Operation κ)) : List κ := ops.filterMap Operation.time?

/-- The period boundaries of a frequency that a clock crosses from one reading to another. -/
def crossed (f before after : Rat) : Int := ⌊after * f⌋ - ⌊before * f⌋

/-- A clock that advances by some spans crosses less than `2 ^ 31` boundaries in each. -/
def CrossesFew (f : Rat) : Rat → List Rat → Prop
  | _, [] => True
  | clock, d :: ds => crossed f clock (clock + d) < 2 ^ 31 ∧ CrossesFew f (clock + d) ds

instance CrossesFew.decidable (f : Rat) : ∀ clock ds, Decidable (CrossesFew f clock ds)
  | _, [] => .isTrue trivial
  | clock, d :: ds =>
    have := decidable f (clock + d) ds
    inferInstanceAs (Decidable (_ ∧ _))

theorem CrossesFew.append {f clock : Rat} {a b : List Rat} (h : CrossesFew f clock (a ++ b)) :
    CrossesFew f clock a ∧ CrossesFew f (clock + a.sum) b := by
  induction a generalizing clock with
  | nil =>
    rw [List.sum_nil, add_zero]
    exact ⟨trivial, h⟩
  | cons d ds ih =>
    obtain ⟨hfew, hrest⟩ := h
    obtain ⟨hds, hb⟩ := ih hrest
    rw [List.sum_cons, ← add_assoc]
    exact ⟨⟨hfew, hds⟩, hb⟩

/-! ## Accounts -/

def Event.cycles : Event κ → Nat
  | .cycle _ => 1
  | .timers _ => 0

def cyclesRun (events : List (Event κ)) : Nat := (events.map Event.cycles).sum

/-- The session that a cycle starts from. -/
def Event.start? : Event κ → Option (Session κ)
  | .cycle s => some s
  | .timers _ => none

/-- From one reading of the clock to another, the calls report all that is due at the frequencies
`f` of the instructions and `t` of the timers, and have done what they report. -/
structure Accounted (f t before after : Rat) (works : List Session.Work)
    (events : List (Event Rat)) : Prop where
  cycles : (((works.map Session.Work.cycles).sum : Nat) : Int) = crossed f before after
  ticks : (works.map Session.Work.ticks).sum = crossed t before after
  run : cyclesRun events = (works.map Session.Work.cycles).sum
  given : ticksGiven events = (works.map Session.Work.ticks).sum

theorem crossed_self (f clock : Rat) : crossed f clock clock = 0 := sub_self _

theorem crossed_add_crossed (f a b c : Rat) : crossed f a b + crossed f b c = crossed f a c := by
  unfold crossed
  ring

theorem crossed_zero (f after : Rat) : crossed f 0 after = ⌊after * f⌋ := by
  rw [crossed, zero_mul, Int.floor_zero, sub_zero]

theorem crossed_nonneg {f before after : Rat} (hf : 0 ≤ f) (h : before ≤ after) :
    0 ≤ crossed f before after :=
  sub_nonneg.2 (Int.floor_le_floor (mul_le_mul_of_nonneg_right h hf))

theorem cyclesRun_append (a b : List (Event κ)) :
    cyclesRun (a ++ b) = cyclesRun a + cyclesRun b := by
  rw [cyclesRun, List.map_append, List.sum_append]
  rfl

theorem cyclesRun_eq_length (events : List (Event κ)) :
    cyclesRun events = (events.filterMap Event.start?).length := by
  induction events with
  | nil => rfl
  | cons e events ih =>
    rw [cyclesRun, List.map_cons, List.sum_cons, ← cyclesRun, ih]
    cases e with
    | cycle s => exact Nat.add_comm _ _
    | timers n => exact Nat.zero_add _

namespace Accounted

variable {f t : Rat}

theorem nil (clock : Rat) : Accounted f t clock clock [] [] where
  cycles := (crossed_self f clock).symm
  ticks := (crossed_self t clock).symm
  run := rfl
  given := rfl

/-- A call that does nothing while the clock stands still. -/
theorem idle (clock : Rat) : Accounted f t clock clock [⟨0, 0⟩] [] where
  cycles := (crossed_self f clock).symm
  ticks := (crossed_self t clock).symm
  run := rfl
  given := rfl

theorem append {a b c : Rat} {v w : List Session.Work} {d e : List (Event Rat)}
    (hv : Accounted f t a b v d) (hw : Accounted f t b c w e) :
    Accounted f t a c (v ++ w) (d ++ e) where
  cycles := by
    rw [List.map_append, List.sum_append, Nat.cast_add, hv.cycles, hw.cycles, crossed_add_crossed]
  ticks := by rw [List.map_append, List.sum_append, hv.ticks, hw.ticks, crossed_add_crossed]
  run := by rw [List.map_append, List.sum_append, cyclesRun_append, hv.run, hw.run]
  given := by rw [List.map_append, List.sum_append, ticksGiven_append, hv.given, hw.given]

end Accounted

namespace Session

/-! ## What leaves the time alone -/

/-- The sessions agree in their clocks, the pause and the frequencies. -/
structure SameTime (s t : Session κ) : Prop where
  clock : t.clock = s.clock
  lastSync : t.lastSync = s.lastSync
  paused : t.paused = s.paused
  instruction : t.instructionFrequency = s.instructionFrequency
  timer : t.timerFrequency = s.timerFrequency

theorem SameTime.refl (s : Session κ) : SameTime s s := ⟨rfl, rfl, rfl, rfl, rfl⟩

theorem SameTime.trans {s t u : Session κ} (hst : SameTime s t) (htu : SameTime t u) :
    SameTime s u where
  clock := htu.clock.trans hst.clock
  lastSync := htu.lastSync.trans hst.lastSync
  paused := htu.paused.trans hst.paused
  instruction := htu.instruction.trans hst.instruction
  timer := htu.timer.trans hst.timer

theorem Loaded.sameTime {s t : Session κ} (h : Loaded s t) : SameTime s t := by
  obtain ⟨_, _, _, _, rfl⟩ := h
  exact ⟨rfl, rfl, rfl, rfl, rfl⟩

variable [ClockArithmetic κ]

/-- An operation that keeps the time and is no synchronisation changes at most the pause. -/
theorem operate_sameTime (s : Session κ) {op : Operation κ} (hop : op.keepsTime = true)
    (hidle : op.time? = none) :
    SameTime { s with paused := op.pauses s.paused } (s.operate op).session := by
  cases op with
  | loadProgram program =>
    exact attempt_session (.refl s) fun _ ht => (loaded_of_loadProgram ht).sameTime
  | loadRom read path =>
    exact attempt_session (.refl s) fun _ ht => (loaded_of_loadRom ht).sameTime
  | reset | pressKey key | releaseKey key | toggleKey key =>
    refine attempt_session (.refl s) fun t ht => ?_
    obtain ⟨_, -, rfl⟩ := exists_of_map_eq_ok ht
    exact ⟨rfl, rfl, rfl, rfl, rfl⟩
  | togglePause => exact ⟨rfl, rfl, rfl, rfl, rfl⟩
  | sync now => cases hidle
  | _ => cases hop

/-! ## Work -/

/-- The session after a cycle. -/
def advance (s : Session κ) : Session κ := s.step.session

/-- The session after some cycles, one after another, and then some ticks of the timers. -/
def worked (s : Session κ) (w : Work) : Session κ :=
  { advance^[w.cycles] s with
    machine := (advance^[w.cycles] s).machine.tickTimers (Int32.ofInt w.ticks) }

/-- The same, event by event. -/
def workTrace (s : Session κ) (w : Work) : List (Event κ) :=
  ((List.range w.cycles).map fun i => .cycle (advance^[i] s)) ++ [.timers w.ticks]

theorem worked_zero (s : Session κ) : s.worked ⟨0, 0⟩ = s := by
  show { s with machine := s.machine.tickTimers 0 } = s
  rw [Machine.tickTimers_zero]

theorem advance_sameTime (s : Session κ) : SameTime s s.advance := by
  have h := stepped s
  rw [advance]
  generalize s.step.session = t at h ⊢
  cases h <;> exact ⟨rfl, rfl, rfl, rfl, rfl⟩

theorem worked_sameTime (s : Session κ) (w : Work) : SameTime s (s.worked w) := by
  have hcycles (n : Nat) : SameTime s (advance^[n] s) := by
    induction n generalizing s with
    | zero => exact .refl s
    | succ n ih => exact (advance_sameTime s).trans (ih s.advance)
  exact (hcycles w.cycles).trans ⟨rfl, rfl, rfl, rfl, rfl⟩

/-- Cycles without timers have a result, also where they crash. -/
theorem steps_done {s : Session κ} (hfits : s.program.length ≤ longestProgram) (n : Nat) :
    steps n s = .done (advance^[n] s) () ∧
      stepsTrace n s = (List.range n).map fun i => .cycle (advance^[i] s) := by
  induction n generalizing s with
  | zero => exact ⟨rfl, rfl⟩
  | succ n ih =>
    have hstep : s.step = .done s.advance s.advance.status := step_done hfits
    -- A crash loads the program again within the cycle, so the next one starts with it too.
    rw [← step_program s] at hfits
    obtain ⟨hsteps, htrace⟩ := ih (s := s.advance) hfits
    constructor
    · rw [steps, hstep]
      exact hsteps
    · rw [stepsTrace, repeatTrace, hstep, List.range_succ_eq_map, List.map_cons, List.map_map]
      exact congrArg (List.cons (.cycle s)) htrace

theorem starts_workTrace (s : Session κ) (w : Work) :
    (s.workTrace w).filterMap Event.start? =
      (List.range w.cycles).map fun i => advance^[i] s := by
  have hstart : Event.start? ∘ (fun i => Event.cycle (advance^[i] s)) =
      fun i => some (advance^[i] s) := rfl
  rw [workTrace, List.filterMap_append, List.filterMap_map, hstart, List.filterMap_eq_map']
  exact List.append_nil _

theorem ticksGiven_workTrace (s : Session κ) (w : Work) : ticksGiven (s.workTrace w) = w.ticks := by
  have hnone : ticksGiven ((List.range w.cycles).map fun i => Event.cycle (advance^[i] s)) = 0 := by
    refine List.sum_eq_zero fun n hn => ?_
    simp only [List.map_map, List.mem_map] at hn
    obtain ⟨_, -, rfl⟩ := hn
    rfl
  rw [workTrace, ticksGiven_append, hnone, zero_add]
  exact List.sum_singleton

/-! ## One synchronisation -/

/-- The first synchronisation, and one while the session is paused, only remembers the time. -/
theorem sync_idle {s : Session Rat} (h : s.lastSync = none ∨ s.paused = true) (now : Rat) :
    s.sync now = .done { s with lastSync := some now } ⟨0, 0⟩ ∧ s.syncTrace now = [] := by
  unfold sync syncTrace
  cases hlast : s.lastSync with
  | none => exact ⟨rfl, rfl⟩
  | some last =>
    have hpaused : s.paused = true := h.resolve_left (by simp [hlast])
    have helapsed : ClockArithmetic.sub now last = .ok (now - last) := rfl
    simp only [helapsed, ifOk_ok, runFor, runForTrace, hpaused, if_true, and_self]

/-- The session has frequencies at which time does not run backwards, and its program fits. -/
structure Timed (f t : Rat) (s : Session Rat) : Prop where
  fits : s.program.length ≤ longestProgram
  instruction : s.instructionFrequency = f
  timer : s.timerFrequency = t
  instruction_nonneg : 0 ≤ f
  timer_nonneg : 0 ≤ t

theorem ticksBetween_eq {f last now : Rat} (hf : 0 ≤ f) (h : last ≤ now) :
    ticksBetween last now f = .ok (crossed f last now) :=
  congrArg Except.ok (max_eq_right (crossed_nonneg hf h))

theorem catchUp_accounted {f t : Rat} {s : Session Rat} (hs : Timed f t s) {last now : Rat}
    (h : last ≤ now) (hfew : crossed t last now < 2 ^ 31) :
    ∃ w, s.catchUp last now = .done (s.worked w) w ∧ s.catchUpTrace last now = s.workTrace w ∧
      Accounted f t last now [w] (s.workTrace w) := by
  have hdue := crossed_nonneg hs.instruction_nonneg h
  have hcycles : ticksBetween last now s.instructionFrequency = .ok (crossed f last now) := by
    rw [hs.instruction]
    exact ticksBetween_eq hs.instruction_nonneg h
  obtain ⟨hsteps, htrace⟩ := steps_done hs.fits (crossed f last now).toNat
  -- The timer frequency is read after the cycles, which leave it alone.
  have htimer : (advance^[(crossed f last now).toNat] s).timerFrequency = t :=
    (worked_sameTime s ⟨_, 0⟩).timer.trans hs.timer
  have hticks : ticksBetween last now (advance^[(crossed f last now).toNat] s).timerFrequency =
      .ok (crossed t last now) := by
    rw [htimer]
    exact ticksBetween_eq hs.timer_nonneg h
  have htimers := tickTimers_eq (advance^[(crossed f last now).toNat] s)
    (crossed_nonneg hs.timer_nonneg h) hfew
  have hcatchUp : s.catchUp last now =
      .done (s.worked ⟨(crossed f last now).toNat, crossed t last now⟩)
        ⟨(crossed f last now).toNat, crossed t last now⟩ := by
    simp only [catchUp, hcycles, hsteps, Outcome.done_next, hticks, htimers, attempt]
    rfl
  refine ⟨_, hcatchUp, ?_, ?_⟩
  · rw [catchUpTrace, hcatchUp, hcycles, workTrace, ← htrace]
    rfl
  · constructor
    · simpa using hdue
    · simp
    · rw [cyclesRun_eq_length, starts_workTrace, List.length_map, List.length_range]
      rfl
    · rw [ticksGiven_workTrace]
      exact List.sum_singleton.symm

theorem larger_zero {d : Rat} (h : 0 ≤ d) : ClockArithmetic.larger ClockArithmetic.zero d = d := by
  unfold ClockArithmetic.larger
  split
  · rfl
  · next hlt =>
    have hle : ¬ 0 < d := fun hpos => hlt (decide_eq_true hpos)
    exact le_antisymm h (not_lt.1 hle)

def clockAfter (s : Session Rat) (op : Operation Rat) : Rat :=
  s.clock + (op.span s.lastSync s.paused).sum

/-- The session whose clock has caught up with an outer one. -/
def caughtUp (s : Session Rat) (now : Rat) : Session Rat :=
  { s with lastSync := some now, clock := s.clockAfter (.sync now) }

/-- A synchronisation reports the work that it does: once the clock has caught up, the cycles start
from one session after another, and the ticks are given in the end. -/
structure Synchronised (s : Session Rat) (now : Rat) (w : Work) : Prop where
  done : s.sync now = .done ((s.caughtUp now).worked w) w
  starts : (s.syncTrace now).filterMap Event.start? =
    (List.range w.cycles).map fun i => advance^[i] (s.caughtUp now)
  given : ticksGiven (s.syncTrace now) = w.ticks

theorem clockAfter_of_span {s : Session Rat} {op : Operation Rat}
    (h : op.span s.lastSync s.paused = []) : s.clockAfter op = s.clock := by
  rw [clockAfter, h, List.sum_nil, add_zero]

theorem synchronised_idle {s : Session Rat} (h : s.lastSync = none ∨ s.paused = true) (now : Rat) :
    Synchronised s now ⟨0, 0⟩ := by
  have hspan : (Operation.sync now).span s.lastSync s.paused = [] := by
    rcases h with h | h
    · rw [h]
      rfl
    · rw [h]
      cases s.lastSync <;> rfl
  obtain ⟨hsync, htrace⟩ := sync_idle h now
  refine ⟨?_, ?_, ?_⟩
  · rw [worked_zero, caughtUp, clockAfter_of_span hspan, hsync]
  · rw [htrace]
    rfl
  · rw [htrace]
    rfl

/-- **A synchronisation accounts for the time since the one before.** -/
theorem sync_accounted {f t : Rat} {s : Session Rat} (hs : Timed f t s) {last now : Rat}
    (hlast : s.lastSync = some last) (hpaused : s.paused = false) (h : last ≤ now)
    (hfew : crossed t s.clock (s.clock + (now - last)) < 2 ^ 31) :
    ∃ w, Synchronised s now w ∧
      Accounted f t s.clock (s.clock + (now - last)) [w] (s.syncTrace now) := by
  have hspan : 0 ≤ now - last := sub_nonneg.2 h
  have helapsed : ClockArithmetic.sub now last = .ok (now - last) := rfl
  have hclock : ClockArithmetic.add s.clock (now - last) = .ok (s.clock + (now - last)) := rfl
  have hcaughtUp : s.caughtUp now =
      { s with lastSync := some now, clock := s.clock + (now - last) } := by
    rw [caughtUp, clockAfter, hlast, hpaused]
    congr 1
    exact congrArg (s.clock + ·) List.sum_singleton
  have hmoved : Timed f t (s.caughtUp now) :=
    ⟨hs.fits, hs.instruction, hs.timer, hs.instruction_nonneg, hs.timer_nonneg⟩
  obtain ⟨w, hcatchUp, hworkTrace, haccounted⟩ :=
    catchUp_accounted hmoved (le_add_of_nonneg_right hspan) hfew
  have hsync : s.sync now = .done ((s.caughtUp now).worked w) w := by
    rw [← hcatchUp, hcaughtUp]
    simp only [sync, hlast, helapsed, larger_zero hspan, runFor, hpaused, hclock, if_false,
      Bool.false_eq_true]
  have htrace : s.syncTrace now = (s.caughtUp now).workTrace w := by
    rw [← hworkTrace, hcaughtUp]
    simp only [syncTrace, hlast, helapsed, ifOk_ok, larger_zero hspan, runForTrace, hpaused,
      hclock, if_false, Bool.false_eq_true]
  rw [← htrace] at haccounted
  refine ⟨w, ⟨hsync, ?_, ?_⟩, haccounted⟩
  · rw [htrace, starts_workTrace]
  · rw [htrace, ticksGiven_workTrace]

/-! ## Many synchronisations -/

/-- What a synchronisation reports. -/
def answer (s : Session κ) : Operation κ → List (Except Fault Work)
  | .sync now => [(s.sync now).result]
  | _ => []

/-- What the synchronisations among some operations report. -/
def answers (s : Session κ) : List (Operation κ) → List (Except Fault Work)
  | [] => []
  | op :: ops => s.answer op ++ (s.operate op).session.answers ops

/-- An operation advances the clock by its span, and accounts for it. -/
structure Advances (f t : Rat) (s : Session Rat) (op : Operation Rat) : Prop where
  time : SameTime { s with
    lastSync := op.remembered s.lastSync, paused := op.pauses s.paused, clock := s.clockAfter op }
    (s.operate op).session
  accounted : ∃ works, s.answer op = works.map .ok ∧
    Accounted f t s.clock (s.clockAfter op) works (s.operateTrace op)
  synchronised : ∀ now, op = .sync now → ∃ w, Synchronised s now w

theorem Synchronised.sameTime {s : Session Rat} {now : Rat} {w : Work} (h : Synchronised s now w) :
    SameTime (s.caughtUp now) (s.operate (.sync now)).session := by
  rw [operate, h.done]
  exact worked_sameTime _ w

theorem advances_of_time? (f t : Rat) (s : Session Rat) {op : Operation Rat}
    (hop : op.keepsTime = true) (hidle : op.time? = none) : Advances f t s op := by
  have hclock : s.clockAfter op = s.clock :=
    clockAfter_of_span (by simp only [Operation.span, hidle])
  have hanswer : s.answer op = [] := by
    cases op <;> first | rfl | cases hidle
  have hruns : op.runs = false := by
    cases op with
    | sync now => cases hidle
    | _ => first | rfl | cases hop
  constructor
  · rw [hclock, Operation.remembered_of_none hidle]
    exact operate_sameTime s hop hidle
  · rw [hclock, hanswer, Traced.operateTrace_of_not_runs s hruns]
    exact ⟨[], rfl, .nil s.clock⟩
  · rintro now rfl
    cases hidle

theorem advances_sync_idle (f t : Rat) {s : Session Rat} (h : s.lastSync = none ∨ s.paused = true)
    (now : Rat) : Advances f t s (.sync now) := by
  have hidle := synchronised_idle h now
  have hclock : s.clockAfter (.sync now) = s.clock := by
    obtain ⟨hsync, -⟩ := sync_idle h now
    have hsame := hidle.done.symm.trans hsync
    rw [worked_zero] at hsame
    exact (congrArg (Session.clock ∘ Outcome.session) hsame).trans rfl
  constructor
  · exact hidle.sameTime
  · rw [hclock, answer, hidle.done, operateTrace, (sync_idle h now).2]
    exact ⟨[⟨0, 0⟩], rfl, .idle s.clock⟩
  · rintro _ ⟨⟩
    exact ⟨_, hidle⟩

theorem advances_sync {f t : Rat} {s : Session Rat} (hs : Timed f t s) {last now : Rat}
    (hlast : s.lastSync = some last) (hpaused : s.paused = false) (h : last ≤ now)
    (hfew : CrossesFew t s.clock ((Operation.sync now).span s.lastSync s.paused)) :
    Advances f t s (.sync now) := by
  have hspan : (Operation.sync now).span s.lastSync s.paused = [now - last] := by
    rw [hlast, hpaused]
    rfl
  have hclock : s.clockAfter (.sync now) = s.clock + (now - last) := by
    rw [clockAfter, hspan, List.sum_singleton]
  rw [hspan] at hfew
  obtain ⟨w, hsync, haccounted⟩ := sync_accounted hs hlast hpaused h hfew.1
  constructor
  · exact hsync.sameTime
  · rw [hclock, answer, hsync.done]
    exact ⟨[w], rfl, haccounted⟩
  · rintro _ ⟨⟩
    exact ⟨w, hsync⟩

theorem operate_advances {f t : Rat} {s : Session Rat} (hs : Timed f t s) {op : Operation Rat}
    (hop : op.keepsTime = true)
    (horder : ∀ last, s.lastSync = some last → ∀ now, op.time? = some now → last ≤ now)
    (hfew : CrossesFew t s.clock (op.span s.lastSync s.paused)) : Advances f t s op := by
  cases htime : op.time? with
  | none => exact advances_of_time? f t s hop htime
  | some now =>
    obtain rfl : op = .sync now := by
      cases op <;> cases htime
      rfl
    cases hpaused : s.paused with
    | true => exact advances_sync_idle f t (.inr hpaused) now
    | false =>
      cases hlast : s.lastSync with
      | none => exact advances_sync_idle f t (.inl hlast) now
      | some last => exact advances_sync hs hlast hpaused (horder last hlast now rfl) hfew

theorem ordered_cons {last : Option Rat} {op : Operation Rat} {ops : List (Operation Rat)}
    (h : (last.toList ++ times (op :: ops)).Pairwise (· ≤ ·)) :
    (∀ l, last = some l → ∀ now, op.time? = some now → l ≤ now) ∧
      ((op.remembered last).toList ++ times ops).Pairwise (· ≤ ·) := by
  cases htime : op.time? with
  | none =>
    have htimes : times (op :: ops) = times ops := List.filterMap_cons_none htime
    rw [htimes] at h
    rw [Operation.remembered_of_none htime]
    refine ⟨fun l _ now hnow => ?_, h⟩
    cases hnow
  | some now =>
    have htimes : times (op :: ops) = now :: times ops := List.filterMap_cons_some htime
    rw [htimes] at h
    rw [Operation.remembered_of_some htime]
    refine ⟨fun l hl now' hnow => ?_, (List.pairwise_append.1 h).2.1⟩
    cases hnow
    subst hl
    exact List.rel_of_pairwise_cons h List.mem_cons_self

/-- What all operations report and do, from a session on, accounts for their spans, and each of their
synchronisations does what it reports. -/
theorem after_accounted {f t : Rat} {s : Session Rat} (hs : Timed f t s)
    {ops : List (Operation Rat)} (hops : ∀ op ∈ ops, op.keepsTime = true)
    (hordered : (s.lastSync.toList ++ times ops).Pairwise (· ≤ ·))
    (hfew : CrossesFew t s.clock (spans s.lastSync s.paused ops)) :
    (∃ works, s.answers ops = works.map .ok ∧
      Accounted f t s.clock (s.clock + (spans s.lastSync s.paused ops).sum) works
        (s.trace ops)) ∧
      ∀ before now after, ops = before ++ .sync now :: after →
        ∃ w, (s.after before).Synchronised now w := by
  induction ops generalizing s with
  | nil =>
    rw [spans, List.sum_nil, add_zero]
    exact ⟨⟨[], rfl, .nil s.clock⟩, fun before now after hsplit => by simp at hsplit⟩
  | cons op ops ih =>
    obtain ⟨hfirst, hrest⟩ := hfew.append
    obtain ⟨horder, hordered⟩ := ordered_cons hordered
    obtain ⟨htime, ⟨works, hanswer, haccounted⟩, hsync⟩ :=
      operate_advances hs (hops op List.mem_cons_self) horder hfirst
    have hu : Timed f t (s.operate op).session :=
      ⟨operate_program_fits op hs.fits, htime.instruction.trans hs.instruction,
        htime.timer.trans hs.timer, hs.instruction_nonneg, hs.timer_nonneg⟩
    have hih := ih hu fun o ho => hops o (List.mem_cons_of_mem _ ho)
    -- The rest starts from the clock, the time and the pause that the first operation leaves.
    rw [htime.clock, htime.lastSync, htime.paused] at hih
    obtain ⟨⟨worksAfter, hanswers, haccountedAfter⟩, hsyncs⟩ := hih hordered hrest
    refine ⟨⟨works ++ worksAfter, ?_, ?_⟩, fun before now after hsplit => ?_⟩
    · rw [answers, hanswer, hanswers, List.map_append]
    · rw [spans, List.sum_append, ← add_assoc]
      exact haccounted.append haccountedAfter
    · cases before with
      | nil =>
        cases hsplit
        exact hsync now rfl
      | cons _ before =>
        cases hsplit
        exact hsyncs before now after rfl

/-! ## New sessions -/

theorem le_eq_true {a b : Rat} : ClockArithmetic.le a b = true ↔ a ≤ b := by
  rw [ClockArithmetic.le, Bool.or_eq_true, le_iff_lt_or_eq]
  exact or_congr decide_eq_true_iff decide_eq_true_iff

theorem create_timed {read : FileReader} {settings : SessionSettings Rat} {s : Session Rat}
    (h : create read settings = .ok s) :
    Timed settings.instructionFrequency settings.timerFrequency s ∧
      SameTime (fresh settings) s := by
  have hfits := (create_program h).2
  have hsame := (loaded_of_create h).sameTime
  obtain ⟨hfrequency, htimer, -⟩ := create_eq_ok h
  have hinstruction : 0 ≤ settings.instructionFrequency := by
    rw [frequencyAllowed, Bool.and_eq_true, le_eq_true, le_eq_true] at hfrequency
    have hone : (0 : Rat) ≤ ClockArithmetic.ofInt leastFrequency := Int.cast_nonneg (by decide)
    exact hone.trans hfrequency.1
  have htimer : 0 ≤ settings.timerFrequency := by
    rw [← Bool.not_eq_true, le_eq_true, not_le] at htimer
    exact htimer.le
  exact ⟨⟨hfits, hsame.instruction, hsame.timer, hinstruction, htimer⟩, hsame⟩

/-- A new session with frequencies `f` and `t`, and operations with synchronisations at times in
order, none with more timer ticks than can be counted at once. -/
structure Timeline (f t : Rat) (s : Session Rat) (ops : List (Operation Rat)) : Prop where
  created : ∃ read settings, create read settings = .ok s ∧
    settings.instructionFrequency = f ∧ settings.timerFrequency = t
  keepsTime : ∀ op ∈ ops, op.keepsTime = true
  ordered : (times ops).Pairwise (· ≤ ·)
  few : CrossesFew t 0 (spans none false ops)

/-- The time between the synchronisations of a new session, without what was paused. -/
def unpausedTime (ops : List (Operation Rat)) : Rat := (spans none false ops).sum

theorem Timeline.accounted {f t : Rat} {s : Session Rat} {ops : List (Operation Rat)}
    (h : Timeline f t s ops) :
    (∃ works, s.answers ops = works.map .ok ∧
      Accounted f t 0 (unpausedTime ops) works (s.trace ops)) ∧
      ∀ before now after, ops = before ++ .sync now :: after →
        ∃ w, (s.after before).Synchronised now w := by
  obtain ⟨read, settings, hcreate, rfl, rfl⟩ := h.created
  obtain ⟨htimed, hsame⟩ := create_timed hcreate
  have hclock : s.clock = 0 := hsame.clock
  have hlast : s.lastSync = none := hsame.lastSync
  have hpaused : s.paused = false := hsame.paused
  have haccounted := after_accounted htimed h.keepsTime
  rw [hclock, hlast, hpaused, zero_add] at haccounted
  exact haccounted h.ordered h.few

/-- **Pacing by time neither drifts nor counts twice.** Let `T` be the time from each
synchronisation of a new session to the next, left out where that is made while the session is
paused. Every synchronisation succeeds. The cycles that they report add up to `⌊T * f⌋`, and so many
are run; the timer ticks add up to `⌊T * t⌋`, and so many are given. So both depend on `T` only,
however it is cut. What each of them leaves is the session it found, its clock caught up, after as
many cycles as it reports, crashes included, and the ticks it reports. A synchronisation while paused
executes nothing and only remembers the time. -/
theorem sync_totals {f t : Rat} {s : Session Rat} {ops : List (Operation Rat)}
    (h : Timeline f t s ops) :
    (∃ works : List Work, s.answers ops = works.map .ok ∧
      ((works.map Work.cycles).sum : Int) = ⌊unpausedTime ops * f⌋ ∧
      (works.map Work.ticks).sum = ⌊unpausedTime ops * t⌋) ∧
    (cyclesRun (s.trace ops) = ⌊unpausedTime ops * f⌋ ∧
      ticksGiven (s.trace ops) = ⌊unpausedTime ops * t⌋) ∧
    (∀ s' ops', Timeline f t s' ops' → unpausedTime ops' = unpausedTime ops →
      cyclesRun (s'.trace ops') = cyclesRun (s.trace ops) ∧
        ticksGiven (s'.trace ops') = ticksGiven (s.trace ops)) ∧
    (∀ before now after, ops = before ++ .sync now :: after →
      ∃ w, (s.after before).Synchronised now w) ∧
    ∀ (u : Session Rat) (now : Rat), u.paused = true →
      u.sync now = .done { u with lastSync := some now } ⟨0, 0⟩ ∧ u.syncTrace now = [] := by
  obtain ⟨⟨works, hanswers, haccounted⟩, hsyncs⟩ := h.accounted
  have hcycles := haccounted.cycles
  have hticks := haccounted.ticks
  rw [crossed_zero] at hcycles hticks
  refine ⟨⟨works, hanswers, hcycles, hticks⟩, ⟨?_, ?_⟩, fun s' ops' h' htime => ?_, hsyncs,
    fun u now hpaused => sync_idle (.inr hpaused) now⟩
  · rw [haccounted.run, hcycles]
  · rw [haccounted.given, hticks]
  · -- Both timelines account for the same time from zero on.
    obtain ⟨⟨works', -, haccounted'⟩, -⟩ := h'.accounted
    rw [htime] at haccounted'
    have hsame := haccounted'.cycles.trans haccounted.cycles.symm
    rw [haccounted'.run, haccounted.run, haccounted'.given, haccounted.given, haccounted'.ticks,
      haccounted.ticks]
    exact ⟨Int.ofNat.inj hsame, rfl⟩

/-- A program that crashes in every second cycle, for three quarters of a second, with a pause and a
key pressed meanwhile. -/
theorem sync_totals_crashing :
    let read : FileReader := fun _ => .ok [0x60, 0x07, 0x00, 0xEE]
    let settings : SessionSettings Rat := ⟨some "rom", 10, 60, 0⟩
    let ops : List (Operation Rat) := [.sync 10, .sync (21 / 2), .togglePause, .sync 20,
      .pressKey 3, .togglePause, .sync 20, .sync (81 / 4)]
    ∃ s, create read settings = .ok s ∧ Timeline 10 60 s ops ∧
      cyclesRun (s.trace ops) = 7 ∧ ticksGiven (s.trace ops) = 45 ∧
      (∃ w, (s.after [.sync 10]).Synchronised (21 / 2) w) ∧
      (s.after ops).failure = some ⟨"StackFault: stack underflow: pop with sp=0x00", 1⟩ := by
  intro read settings ops
  have hran : (create read settings).map (fun s => (s.after ops).failure) =
      .ok (some ⟨"StackFault: stack underflow: pop with sp=0x00", 1⟩) := by decide +kernel
  cases hcreate : create read settings with
  | error e =>
    rw [hcreate] at hran
    cases hran
  | ok s =>
    rw [hcreate] at hran
    have h : Timeline 10 60 s ops :=
      ⟨⟨read, settings, hcreate, rfl, rfl⟩, by decide, by decide +kernel, by decide +kernel⟩
    have htime : unpausedTime ops = 3 / 4 := by decide +kernel
    obtain ⟨-, ⟨hcycles, hticks⟩, -, hsyncs, -⟩ := sync_totals h
    rw [htime] at hcycles hticks
    have hseven : ⌊(3 / 4 : Rat) * 10⌋ = 7 := by decide +kernel
    have hforty : ⌊(3 / 4 : Rat) * 60⌋ = 45 := by decide +kernel
    exact ⟨s, rfl, h, by omega, by omega, hsyncs [.sync 10] (21 / 2) _ rfl, Except.ok.inj hran⟩

end Session

end Chip8
