import Chip8.Proofs.Session.Tally

/-!
# Counting instructions

What the counter of a session says, and the count on record with a fault, after any history.

**Moments** (`Moment`, `Session.moments`). A history is told by the results of its cycles, from
whatever call they were run, and by its explicit resets, in order.

**Restarts** (`Moment.restarts`). The count starts again at a reset and at a fault, which resets as
well. The tally is kept over moments as it is over the results of cycles (`Tally.afterMoment`): a
reset clears the record too, a fault replaces it by the count that it ends.

**Read off** (`instructions_ofMoments`, `failure_ofMoments`). The counter is the number of
instructions completed since the last restart. A fault is on record as long as no reset follows, and
with it the number completed between the restart before it and the fault.
-/

namespace Chip8

variable {κ : Type}

/-! ## Moments -/

/-- What matters to the counter of a session. -/
inductive Moment where
  /-- A cycle, with what became of it. -/
  | cycle (r : CycleResult)
  /-- An explicit reset. -/
  | reset
deriving DecidableEq

namespace Moment

/-- What became of the cycle, if it is one. -/
def result? : Moment → Option CycleResult
  | cycle r => some r
  | reset => none

def completes : Moment → Bool
  | cycle r => r.completes
  | reset => false

def restarts : Moment → Bool
  | cycle r => r.faults
  | reset => true

end Moment

/-- The instructions completed since the session last started again. -/
def completedSinceRestart (ms : List Moment) : Nat :=
  (ms.rtakeWhile fun m => !m.restarts).countP Moment.completes

theorem completedSinceRestart_concat (ms : List Moment) (m : Moment) :
    completedSinceRestart (ms ++ [m]) =
      match m with
      | .cycle (.ok .running) => completedSinceRestart ms + 1
      | .cycle (.ok .waiting) => completedSinceRestart ms
      | .cycle (.error _) => 0
      | .reset => 0 := by
  rw [completedSinceRestart, List.rtakeWhile_concat]
  match m with
  | .cycle (.ok .running) | .cycle (.ok .waiting) => exact List.countP_append
  | .cycle (.error _) | .reset => rfl

/-- The failure tells of the last fault, and the session has not been reset since. -/
def Recorded (ms : List Moment) (f : Failure) : Prop :=
  ∃ before fault after, ms = before ++ .cycle (.error fault) :: after ∧
    (∀ m ∈ after, m.restarts = false) ∧
    f = ⟨"StackFault: " ++ fault.message, completedSinceRestart before⟩

theorem not_recorded_nil (f : Failure) : ¬ Recorded [] f := by
  rintro ⟨before, fault, after, hsplit, -⟩
  simp at hsplit

theorem recorded_concat (ms : List Moment) (m : Moment) (f : Failure) :
    Recorded (ms ++ [m]) f ↔
      match m with
      | .cycle (.ok _) => Recorded ms f
      | .cycle (.error fault) =>
        f = ⟨"StackFault: " ++ fault.message, completedSinceRestart ms⟩
      | .reset => False := by
  constructor
  · rintro ⟨before, fault, after, hsplit, hafter, hf⟩
    -- Either the fault comes last, or what comes last is no restart.
    rcases List.eq_nil_or_concat' after with rfl | ⟨after, last, rfl⟩
    · obtain ⟨rfl, hlast⟩ := List.append_inj' hsplit rfl
      cases hlast
      exact hf
    · rw [← List.cons_append, ← List.append_assoc] at hsplit
      obtain ⟨rfl, hlast⟩ := List.append_inj' hsplit rfl
      cases hlast
      have hm : m.restarts = false := hafter m (by simp)
      match m with
      | .cycle (.ok _) =>
        exact ⟨before, fault, after, rfl, fun m hm => hafter m (by simp [hm]), hf⟩
      | .cycle (.error _) => cases hm
      | .reset => cases hm
  · intro h
    match m with
    | .cycle (.ok status) =>
      obtain ⟨before, fault, after, rfl, hafter, hf⟩ := h
      refine ⟨before, fault, after ++ [.cycle (.ok status)], by simp, fun m hm => ?_, hf⟩
      rcases List.mem_append.1 hm with hm | hm
      · exact hafter m hm
      · rw [List.mem_singleton.1 hm]
        rfl
    | .cycle (.error fault) => exact ⟨ms, fault, [], rfl, by simp, h⟩
    | .reset => exact h.elim

/-! ## The tally over moments -/

namespace Tally

/-- One moment later. -/
def afterMoment (t : Tally) : Moment → Tally
  | .cycle r => t.after r
  | .reset => start

/-- The tally after some moments from the start. -/
def ofMoments (ms : List Moment) : Tally := ms.foldl afterMoment start

theorem ofMoments_concat (ms : List Moment) (m : Moment) :
    ofMoments (ms ++ [m]) = (ofMoments ms).afterMoment m := by
  rw [ofMoments, List.foldl_append]
  rfl

/-- **The counter**: the instructions completed since the last restart. -/
theorem instructions_ofMoments (ms : List Moment) :
    (ofMoments ms).instructions = completedSinceRestart ms := by
  induction ms using List.reverseRecOn with
  | nil => rfl
  | append_singleton ms m ih =>
    rw [completedSinceRestart_concat, ← ih, ofMoments_concat]
    match m with
    | .cycle (.ok .running) | .cycle (.ok .waiting) | .cycle (.error _) | .reset => rfl

/-- **The record**: the last fault, unless a reset follows it. -/
theorem failure_ofMoments (ms : List Moment) (f : Failure) :
    (ofMoments ms).failure = some f ↔ Recorded ms f := by
  induction ms using List.reverseRecOn with
  | nil => simp [ofMoments, start, not_recorded_nil]
  | append_singleton ms m ih =>
    rw [recorded_concat, ofMoments_concat]
    match m with
    | .cycle (.ok .running) | .cycle (.ok .waiting) => exact ih
    | .cycle (.error fault) =>
      rw [← instructions_ofMoments]
      simp [afterMoment, after, eq_comm]
    | .reset => simp [afterMoment, start]

end Tally

/-- The operation runs cycles or resets; no other touches the counter. -/
def Operation.counts : Operation κ → Bool
  | .step | .run _ | .runFor _ | .sync _ | .reset => true
  | _ => false

namespace Session

/-! ## Histories -/

theorem Loaded.tally_eq {s t : Session κ} (h : Loaded s t) : t.tally = s.tally := by
  obtain ⟨_, _, _, _, rfl⟩ := h
  rfl

variable [ClockArithmetic κ]

def momentsIn (s : Session κ) (op : Operation κ) : List Moment :=
  match op with
  | .reset => [.reset]
  | op => (results (s.operateTrace op)).map .cycle

def moments (s : Session κ) : List (Operation κ) → List Moment
  | [] => []
  | op :: ops => s.momentsIn op ++ (s.operate op).session.moments ops

theorem momentsIn_result? (s : Session κ) (op : Operation κ) :
    (s.momentsIn op).filterMap Moment.result? = results (s.operateTrace op) := by
  cases op with
  | reset => rfl
  | _ =>
    show ((results _).map Moment.cycle).filterMap Moment.result? = results _
    rw [List.filterMap_map]
    exact List.filterMap_some

/-- The resets left out, the moments are the results of all cycles of the history. -/
theorem moments_result? (s : Session κ) (ops : List (Operation κ)) :
    (s.moments ops).filterMap Moment.result? = results (s.trace ops) := by
  induction ops generalizing s with
  | nil => rfl
  | cons op ops ih =>
    rw [moments, trace, List.filterMap_append, momentsIn_result?, ih, results_append]

theorem momentsIn_of_counts (s : Session κ) {op : Operation κ} (h : op.counts = false) :
    s.momentsIn op = [] := by
  cases op with
  | tickTimers n =>
    show (results (ifOk (s.tickTimers n) fun _ => [.timers n])).map Moment.cycle = []
    cases s.tickTimers n <;> rfl
  | step | run | runFor | sync | reset => cases h
  | _ => rfl

/-- **An operation keeps the tally of its moments.** -/
theorem operate_tally {s : Session κ} (hfits : s.program.length ≤ longestProgram)
    (op : Operation κ) :
    (s.operate op).session.tally = (s.momentsIn op).foldl Tally.afterMoment s.tally := by
  by_cases hruns : op.runs = true
  · have hmoments : s.momentsIn op = (results (s.operateTrace op)).map .cycle := by
      cases op <;> first | rfl | cases hruns
    rw [hmoments, List.foldl_map]
    exact (traced_tally.operate s hruns hfits).2
  by_cases hcounts : op.counts = true
  · -- Of the operations that count, only a reset does not run the machine.
    cases op with
    | reset =>
      rw [operate, reset_eq_ok hfits]
      rfl
    | step | run | runFor | sync => exact absurd rfl hruns
    | _ => cases hcounts
  rw [Bool.not_eq_true] at hruns hcounts
  have hhandled := handled s hruns
  rw [momentsIn_of_counts s hcounts]
  generalize (s.operate op).session = t at hhandled ⊢
  cases hhandled with
  | still => rfl
  | loaded _ hloaded => exact hloaded.tally_eq
  | adjusted _ hadjusted =>
    obtain ⟨_, _, _, _, rfl⟩ := hadjusted
    rfl
  | reset => cases hcounts

theorem after_tally {s : Session κ} (hfits : s.program.length ≤ longestProgram)
    (ops : List (Operation κ)) :
    (s.after ops).tally = (s.moments ops).foldl Tally.afterMoment s.tally := by
  induction ops generalizing s with
  | nil => rfl
  | cons op ops ih =>
    rw [moments, List.foldl_append, ← operate_tally hfits]
    exact ih (operate_program_fits op hfits)

theorem create_tally {read : FileReader} {settings : SessionSettings κ} {s : Session κ}
    (h : create read settings = .ok s) : s.tally = Tally.start :=
  (loaded_of_create h).tally_eq

/-- **The counter counts completed instructions.** After any history, it is the number of cycles
since the last reset, explicit or by a fault, that completed an instruction. The failure on record,
if there is one, tells of the last fault, and of the number of instructions completed between the
reset before it and the fault; and there is none exactly if nothing has faulted since the last
explicit reset. A cycle that waits is not counted, nor is one that faults, and no operation that
neither runs cycles nor resets changes the count or the record. -/
theorem instructions_counted {read : FileReader} {settings : SessionSettings κ} {s₀ : Session κ}
    (hcreate : create read settings = .ok s₀) (ops : List (Operation κ)) :
    let s := s₀.after ops
    s.instructions = completedSinceRestart (s₀.moments ops) ∧
      (∀ f, s.failure = some f ↔ Recorded (s₀.moments ops) f) ∧
      (s₀.moments ops).filterMap Moment.result? = results (s₀.trace ops) ∧
      (s.step.session.instructions =
        match s.machine.tick with
        | .ok (_, .running) => s.instructions + 1
        | .ok (_, .waiting) => s.instructions
        | .error _ => 0) ∧
      ∀ op : Operation κ, op.counts = false → (s.operate op).session.instructions = s.instructions ∧
        (s.operate op).session.failure = s.failure := by
  intro s
  have hfits₀ := (create_program hcreate).2
  have hfits : s.program.length ≤ longestProgram := after_program_fits ops hfits₀
  have htally : s.tally = Tally.ofMoments (s₀.moments ops) := by
    rw [Tally.ofMoments, ← create_tally hcreate]
    exact after_tally hfits₀ ops
  refine ⟨?_, fun f => ?_, moments_result? s₀ ops, ?_, fun op hop => ?_⟩
  · rw [← Tally.instructions_ofMoments, ← htally]
    rfl
  · rw [← Tally.failure_ofMoments, ← htally]
    rfl
  · have hstep := congrArg Tally.instructions (step_tally hfits)
    cases htick : s.machine.tick with
    | ok r =>
      obtain ⟨machine, status⟩ := r
      rw [htick] at hstep
      cases status <;> exact hstep
    | error fault =>
      rw [htick] at hstep
      exact hstep
  · have hstill := operate_tally hfits op
    rw [momentsIn_of_counts s hop] at hstill
    exact ⟨congrArg Tally.instructions hstill, congrArg Tally.failure hstill⟩

/-- A program that sets a register, waits for a key and returns without a call: run while no key is
held, with a key pressed in the end. -/
theorem instructions_counted_waiting :
    let settings : SessionSettings Number := ⟨none, .integer 700, .integer 60, 5⟩
    let program : Program := [0x60, 0x07, 0xF1, 0x0A, 0x00, 0xEE]
    let ops : List (Operation Number) :=
      [.loadProgram program, .step, .reset, .run 5, .pressKey 3, .run 3]
    let s := (fresh settings).after ops
    create (fun _ => .error .zeroInPath) settings = .ok (fresh settings) ∧
      completedSinceRestart ((fresh settings).moments ops) = 1 ∧ s.instructions = 1 ∧
      s.failure = some ⟨"StackFault: stack underflow: pop with sp=0x00", 2⟩ := by
  intro settings program ops s
  have hcreate : create (fun _ => .error .zeroInPath) settings = .ok (fresh settings) :=
    create_fresh rfl (by decide +kernel) (by decide +kernel) (by decide) _
  obtain ⟨hcount, hfailure, -⟩ := instructions_counted hcreate ops
  have hmoments : (fresh settings).moments ops =
      [.cycle (.ok .running), .reset, .cycle (.ok .running), .cycle (.ok .waiting),
        .cycle (.ok .waiting), .cycle (.ok .waiting), .cycle (.ok .waiting),
        .cycle (.ok .running)] ++ .cycle (.error (.underflow 0)) :: [.cycle (.ok .running)] := by
    decide +kernel
  have hone : completedSinceRestart ((fresh settings).moments ops) = 1 := by
    rw [hmoments]
    rfl
  refine ⟨hcreate, hone, hcount.trans hone, (hfailure _).2 ⟨_, _, _, hmoments, ?_, ?_⟩⟩
  · decide
  · decide +kernel

end Session

end Chip8
