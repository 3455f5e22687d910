import Chip8.Proofs.Session.History

/-!
# Recovery from faults

A cycle of a session never fails (`step_done`). If the machine's cycle does not fault, the session
takes over its result (`step_of_tick`). If it does, the session resets the machine, loads the
program again and only then records the fault, since a reset forgets failures (`step_of_fault`). The
load inside cannot fail: whatever was done to the session, its program once fitted into memory
(`after_program_fits`).
-/

namespace Chip8

variable {κ : Type}

/-- The program that a session starts with. -/
def SessionSettings.program (settings : SessionSettings κ) (read : FileReader) : Program :=
  (settings.romPath.bind fun path => (read path).toOption).getD []

namespace Session

variable [ClockArithmetic κ]

theorem create_program {read : FileReader} {settings : SessionSettings κ} {s : Session κ}
    (h : create read settings = .ok s) :
    s.program = settings.program read ∧ s.program.length ≤ longestProgram := by
  obtain ⟨-, -, ⟨hpath, rfl⟩ | ⟨path, hpath, hload⟩⟩ := create_eq_ok h
  · exact ⟨by rw [SessionSettings.program, hpath]; rfl, Nat.zero_le _⟩
  · obtain ⟨hread, hfits⟩ := loadRom_eq_ok hload
    refine ⟨?_, hfits⟩
    rw [SessionSettings.program, hpath, Option.bind_some, hread]
    rfl

/-! ## One cycle -/

theorem step_of_tick {s : Session κ} {m : Machine} {status : Status}
    (h : s.machine.tick = .ok (m, status)) :
    s.step = .done { s with machine := m, status }.counted status := by
  rw [step, h]

theorem reset_eq_ok {s : Session κ} (h : s.program.length ≤ longestProgram) :
    s.reset = .ok ((s.restarted (Machine.started s.machine.random s.program)).logged .debug
      "Machine reset") := by
  rw [reset, Machine.reset_loadProgram _ h]
  rfl

theorem step_of_fault {s : Session κ} {fault : StackFault}
    (hfits : s.program.length ≤ longestProgram) (h : s.machine.tick = .error fault) :
    let crashed := s.logged .error (crashText (s.failureOf fault))
    let restarted := crashed.restarted (Machine.started s.machine.random s.program)
    s.step = .done { restarted.logged .debug "Machine reset" with
      failure := some (s.failureOf fault) } .running := by
  intro crashed restarted
  have hreset : crashed.reset = .ok (restarted.logged .debug "Machine reset") := reset_eq_ok hfits
  rw [step, h]
  simp only [recover]
  rw [hreset]
  rfl

theorem step_done {s : Session κ} (hfits : s.program.length ≤ longestProgram) :
    s.step = .done s.step.session s.step.session.status := by
  cases htick : s.machine.tick with
  | ok r =>
    obtain ⟨machine, status⟩ := r
    have hstatus := counted_status { s with machine, status }
    rw [step_of_tick htick]
    exact congrArg (Outcome.done _) hstatus.symm
  | error fault =>
    rw [step_of_fault hfits htick]
    rfl

/-! ## Recovery -/

/-- **A cycle never fails, and a fault ends only the run.** After any history of a session, a cycle
has a result. Without a fault, machine and status are those of the machine's cycle. After a fault
the machine is at the first instruction of the program loaded last with success, with its random
key kept; the counters start again; and the fault is on record with the instructions before it. -/
theorem step_recovers {read : FileReader} {settings : SessionSettings κ} {s₀ : Session κ}
    (hcreate : create read settings = .ok s₀) (ops : List (Operation κ)) :
    let s := s₀.after ops
    ∃ t, s.step = .done t t.status ∧
      (∀ m status, s.machine.tick = .ok (m, status) → t.machine = m ∧ t.status = status) ∧
      ∀ fault, s.machine.tick = .error fault →
        t.machine = Machine.started s.machine.random (s₀.lastLoaded (settings.program read) ops) ∧
        t.status = .running ∧ t.instructions = 0 ∧ t.debt = ClockArithmetic.zero ∧
        t.failure = some ⟨"StackFault: " ++ fault.message, s.instructions⟩ := by
  intro s
  obtain ⟨hprogram, hfits₀⟩ := create_program hcreate
  have hfits : s.program.length ≤ longestProgram := after_program_fits ops hfits₀
  have hlast : s.program = s₀.lastLoaded (settings.program read) ops := by
    rw [← hprogram]
    exact after_program s₀ ops
  cases htick : s.machine.tick with
  | ok r =>
    obtain ⟨m, status⟩ := r
    refine ⟨{ s with machine := m, status }.counted, ?_, ?_, fun _ h => by cases h⟩
    · rw [step_of_tick htick, counted_status]
    · intro m' status' h
      cases h
      exact ⟨counted_machine _, counted_status _⟩
  | error fault =>
    refine ⟨_, step_of_fault hfits htick, fun _ _ h => (by cases h), ?_⟩
    intro fault' h
    cases h
    rw [← hlast]
    exact ⟨rfl, rfl, rfl, rfl, rfl⟩

/-- A return without a call, after a program that was loaded, one that was too long, and a cycle. -/
theorem step_recovers_underflow :
    let settings : SessionSettings Number := ⟨none, .integer 700, .integer 60, 5⟩
    let program : Program := [0x60, 0x07, 0x00, 0xEE]
    let ops : List (Operation Number) :=
      [.loadProgram program, .loadProgram (List.replicate 4000 1), .step, .pressKey 3]
    let s := (fresh settings).after ops
    create (fun _ => .error .zeroInPath) settings = .ok (fresh settings) ∧
      s.machine.tick = .error (.underflow 0) ∧
      ∃ t, s.step = .done t t.status ∧ t.machine = Machine.started s.machine.random program ∧
        t.status = .running ∧ t.instructions = 0 ∧ t.debt = ClockArithmetic.zero ∧
        t.failure = some ⟨"StackFault: stack underflow: pop with sp=0x00", 1⟩ := by
  intro settings program ops s
  have hcreate : create (fun _ => .error .zeroInPath) settings = .ok (fresh settings) :=
    create_fresh rfl (by decide +kernel) (by decide +kernel) (by decide) _
  have ⟨htick, hlast, hcount⟩ : s.machine.tick = .error (.underflow 0) ∧
      (fresh settings).lastLoaded [] ops = program ∧ s.instructions = 1 := by decide +kernel
  obtain ⟨t, hstep, -, hfault⟩ := step_recovers hcreate ops
  obtain ⟨hmachine, hstatus, hzero, hdebt, hfailure⟩ := hfault _ htick
  refine ⟨hcreate, htick, t, hstep, ?_, hstatus, hzero, hdebt, ?_⟩
  · rw [hmachine]
    exact congrArg _ hlast
  · rw [hfailure, hcount]
    decide +kernel

end Session

end Chip8
