import Chip8.Proofs.Session.Recovery

/-!
# Faults on record

What a session knows of its past cycles: the last fault, and the instructions completed since.

**Results** (`results`). Every cycle of a trace completes an instruction, waits for a key, or
faults.

**The tally** (`Tally.after`). A completed instruction is counted. A fault is put on record with
the count so far, in the place of an older one, and the count starts again. Sessions keep this
tally whatever is run and however (`traced_tally`): the reset after a fault clears the record, but
the fault is written down only afterwards, and no later cycle but a faulting one touches it.

**Read off** (`failure_ofResults`). So the record is that of the last fault, with the instructions
completed since the one before it, however many cycles follow.
-/

namespace Chip8

variable {κ : Type}

/-- What became of a cycle. -/
abbrev CycleResult := Except StackFault Status

/-- What became of the cycle of an event, if it is one. -/
def Event.result? : Event κ → Option CycleResult
  | .cycle s => some (s.machine.tick.map Prod.snd)
  | .timers _ => none

/-- What became of the cycles of a trace. -/
def results (events : List (Event κ)) : List CycleResult := events.filterMap Event.result?

theorem results_append (a b : List (Event κ)) : results (a ++ b) = results a ++ results b :=
  List.filterMap_append

namespace CycleResult

def completes : CycleResult → Bool
  | .ok .running => true
  | _ => false

def faults : CycleResult → Bool
  | .ok _ => false
  | .error _ => true

end CycleResult

/-- The instructions completed since the last fault. -/
def completedSinceFault (rs : List CycleResult) : Nat :=
  (rs.rtakeWhile fun r => !r.faults).countP CycleResult.completes

theorem completedSinceFault_concat (rs : List CycleResult) (r : CycleResult) :
    completedSinceFault (rs ++ [r]) =
      match r with
      | .ok .running => completedSinceFault rs + 1
      | .ok .waiting => completedSinceFault rs
      | .error _ => 0 := by
  rw [completedSinceFault, List.rtakeWhile_concat]
  match r with
  | .ok .running | .ok .waiting => exact List.countP_append
  | .error _ => rfl

/-! ## The tally -/

/-- The record of the last fault, and the instructions completed since. -/
structure Tally where
  failure : Option Failure
  instructions : Nat

namespace Tally

/-- The tally of a session that has run nothing. -/
def start : Tally := ⟨none, 0⟩

/-- One cycle later. -/
def after (t : Tally) : CycleResult → Tally
  | .ok .running => { t with instructions := t.instructions + 1 }
  | .ok .waiting => t
  | .error fault => ⟨some ⟨"StackFault: " ++ fault.message, t.instructions⟩, 0⟩

/-- The tally after some cycles from the start. -/
def ofResults (rs : List CycleResult) : Tally := rs.foldl after start

theorem instructions_ofResults (rs : List CycleResult) :
    (ofResults rs).instructions = completedSinceFault rs := by
  induction rs using List.reverseRecOn with
  | nil => rfl
  | append_singleton rs r ih =>
    rw [completedSinceFault_concat, ← ih, ofResults, List.foldl_append]
    match r with
    | .ok .running | .ok .waiting | .error _ => rfl

theorem failure_of_noFault {rs : List CycleResult} (h : ∀ fault, .error fault ∉ rs) (t : Tally) :
    (rs.foldl after t).failure = t.failure := by
  induction rs generalizing t with
  | nil => rfl
  | cons r rs ih =>
    have hrest := ih (fun fault hf => h fault (List.mem_cons_of_mem r hf)) (t.after r)
    rw [List.foldl_cons, hrest]
    match r with
    | .ok .running => rfl
    | .ok .waiting => rfl
    | .error fault => exact absurd List.mem_cons_self (h fault)

/-- **The record is that of the last fault**, with the instructions completed before it. -/
theorem failure_ofResults (before : List CycleResult) (fault : StackFault)
    {after : List CycleResult} (h : ∀ fault', .error fault' ∉ after) :
    (ofResults (before ++ .error fault :: after)).failure =
      some ⟨"StackFault: " ++ fault.message, completedSinceFault before⟩ := by
  rw [ofResults, List.foldl_append, List.foldl_cons, failure_of_noFault h,
    ← instructions_ofResults]
  rfl

/-- There is a record exactly if there was a fault. -/
theorem failure_isSome_iff (rs : List CycleResult) :
    (ofResults rs).failure.isSome ↔ ∃ fault, .error fault ∈ rs := by
  constructor
  · intro hsome
    by_contra hnone
    have hempty : (ofResults rs).failure = none :=
      failure_of_noFault (fun fault hfault => hnone ⟨fault, hfault⟩) start
    rw [hempty] at hsome
    cases hsome
  · rintro ⟨fault, hfault⟩
    -- From the end, since a later result keeps the record or replaces it.
    induction rs using List.reverseRecOn with
    | nil => cases hfault
    | append_singleton rs r ih =>
      rw [ofResults, List.foldl_append]
      rcases List.mem_append.1 hfault with hearlier | hlast
      · match r with
        | .ok .running | .ok .waiting => exact ih hearlier
        | .error _ => rfl
      · rw [← List.mem_singleton.1 hlast]
        rfl

end Tally

/-! ## Sessions keep it -/

namespace Session

/-- The tally that a session keeps. -/
def tally (s : Session κ) : Tally := ⟨s.failure, s.instructions⟩

variable [ClockArithmetic κ]

theorem step_tally {s : Session κ} (hfits : s.program.length ≤ longestProgram) :
    s.step.session.tally = s.tally.after (s.machine.tick.map Prod.snd) := by
  cases htick : s.machine.tick with
  | ok r =>
    obtain ⟨machine, status⟩ := r
    rw [step_of_tick htick]
    cases status <;> rfl
  | error fault =>
    rw [step_of_fault hfits htick]
    rfl

/-- **Running keeps the tally of the results of its cycles.** -/
theorem traced_tally : Traced (κ := κ) fun s events t =>
    s.program.length ≤ longestProgram → t.program.length ≤ longestProgram ∧
      t.tally = (results events).foldl Tally.after s.tally where
  trans hab hbc hfits := by
    obtain ⟨hfits', htally⟩ := hab hfits
    obtain ⟨hfits'', htally'⟩ := hbc hfits'
    refine ⟨hfits'', ?_⟩
    rw [htally', htally, results_append, List.foldl_append]
  step s hfits := ⟨(step_program s).symm ▸ hfits, step_tally hfits⟩
  timers h hfits := by
    rw [tickTimers_eq_ok h]
    exact ⟨hfits, rfl⟩
  debt _ _ hfits := ⟨hfits, rfl⟩
  clock _ _ hfits := ⟨hfits, rfl⟩
  lastSync _ _ hfits := ⟨hfits, rfl⟩

end Session

end Chip8
