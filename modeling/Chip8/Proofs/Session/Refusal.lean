import Chip8.Proofs.Session.Restart

/-!
# Refused loads

A load is refused if its file cannot be read or if the program is too long
(`Operation.refusal?`).

**In order** (`assign`). A load is a sequence of assignments to the session, and one that fails
leaves what was assigned before it. The program goes into memory before it is remembered for the
next reset, and before path and log. So the assignment that checks the length is the first, and a
refused load has assigned nothing (`operate_of_refusal`).

**Histories** (`leave_out`). Refused loads may be left out of a history, wherever they stand. All
other operations then start from the same sessions, so nothing that they do or report can differ,
a reset or a crash that loads the remembered program again included.
-/

namespace Chip8

variable {κ : Type}

namespace Operation

/-- Why a load is refused, if it is. -/
def refusal? : Operation κ → Option Fault
  | .loadProgram program =>
    if longestProgram < program.length then some (.programTooLong program.length) else none
  | .loadRom read path =>
    match read path with
    | .error e => some e
    | .ok program =>
      if longestProgram < program.length then some (.programTooLong program.length) else none
  | _ => none

/-- The operation is not a load that is refused. -/
def admitted (op : Operation κ) : Bool := op.refusal?.isNone

end Operation

namespace Session

/-! ## Assignments -/

/-- An assignment to a session, which may fail. -/
abbrev Assignment (κ : Type) := Session κ → Except Fault (Session κ)

/-- Assignments in order, up to the first that fails. -/
def assign (s : Session κ) : List (Assignment κ) → Outcome κ Unit
  | [] => .done s ()
  | a :: as => (s.attempt (a s)).next fun s _ => s.assign as

/-- A program goes into memory, and is remembered. -/
def programAssignments (program : Program) : List (Assignment κ) :=
  [fun s => (s.machine.loadProgram program).map fun machine => { s with machine },
    fun s => .ok { s with program }]

/-- What a file adds to the loading of its program. -/
def romAssignments (read : FileReader) (path : String) : List (Assignment κ) :=
  match read path with
  | .error e => [fun _ => .error e]
  | .ok program =>
    programAssignments program ++ [fun s => .ok { s with romPath := some path },
      fun s => .ok (s.logged .info (loadedText path program.length))]

theorem attempt_loadProgram (s : Session κ) (program : Program) :
    s.attempt (s.loadProgram program) = s.assign (programAssignments program) := by
  simp only [loadProgram, programAssignments, assign]
  cases s.machine.loadProgram program <;> rfl

theorem attempt_loadRom (s : Session κ) (read : FileReader) (path : String) :
    s.attempt (s.loadRom read path) = s.assign (romAssignments read path) := by
  unfold loadRom romAssignments
  cases read path with
  | error e => rfl
  | ok program =>
    simp only [loadProgram, programAssignments, assign, List.cons_append]
    cases s.machine.loadProgram program <;> rfl

/-- If the first assignment fails, nothing has been assigned. -/
theorem assign_of_error {s : Session κ} {a : Assignment κ} {e : Fault} (h : a s = .error e)
    (as : List (Assignment κ)) : s.assign (a :: as) = ⟨s, .error e⟩ := by
  rw [assign, h]
  rfl

theorem assign_of_long (s : Session κ) {program : Program}
    (h : longestProgram < program.length) (as : List (Assignment κ)) :
    s.assign (programAssignments program ++ as) = ⟨s, .error (.programTooLong program.length)⟩ := by
  refine assign_of_error ?_ _
  rw [Machine.loadProgram, if_pos h]
  rfl

variable [ClockArithmetic κ]

/-- **A refused load does nothing but fail.** -/
theorem operate_of_refusal (s : Session κ) {op : Operation κ} {e : Fault}
    (h : op.refusal? = some e) : s.operate op = ⟨s, .error e⟩ := by
  cases op with
  | loadProgram program =>
    simp only [Operation.refusal?] at h
    split_ifs at h with hlong
    cases h
    exact (attempt_loadProgram s program).trans (assign_of_long s hlong [])
  | loadRom read path =>
    refine (attempt_loadRom s read path).trans ?_
    unfold romAssignments
    cases hread : read path with
    | error e' =>
      simp only [Operation.refusal?, hread, Option.some.injEq] at h
      subst h
      exact assign_of_error rfl []
    | ok program =>
      simp only [Operation.refusal?, hread] at h
      split_ifs at h with hlong
      cases h
      exact assign_of_long s hlong _
  | _ => cases h

/-! ## Histories -/

/-- The operations of a history, each with the session it starts from. -/
def course (s : Session κ) : List (Operation κ) → List (Operation κ × Session κ)
  | [] => []
  | op :: ops => (op, s) :: (s.operate op).session.course ops

/-- **Refused loads may be left out of a history.** The others start from the same sessions, do the
same to the machine, and end in the same session. -/
theorem leave_out (s : Session κ) (ops : List (Operation κ)) :
    (s.course ops).filter (·.1.admitted) = s.course (ops.filter Operation.admitted) ∧
      s.trace ops = s.trace (ops.filter Operation.admitted) ∧
      s.after ops = s.after (ops.filter Operation.admitted) := by
  induction ops generalizing s with
  | nil => exact ⟨rfl, rfl, rfl⟩
  | cons op ops ih =>
    obtain ⟨hcourse, htrace, hafter⟩ := ih (s.operate op).session
    cases h : op.refusal? with
    | some e =>
      -- The session is as it was, so the rest starts where it would have.
      have hout : op.admitted = false := by simp [Operation.admitted, h]
      have hevents : s.operateTrace op = [] := by
        cases op <;> first | rfl | cases h
      rw [operate_of_refusal s h] at hcourse htrace hafter
      simp only [course, trace, after, List.foldl_cons, List.filter_cons, hout, hevents,
        operate_of_refusal s h, List.nil_append]
      exact ⟨hcourse, htrace, hafter⟩
    | none =>
      have hin : op.admitted = true := by simp [Operation.admitted, h]
      simp only [List.filter_cons, hin, if_true, course, trace, hcourse, htrace, true_and]
      exact hafter

/-- **Failed loads leave the session intact.** Take a session that came about by any history, and a
load that is refused: of a program that is too long, of a file that cannot be read, or of a file
whose bytes are too many. It fails, and every field of the session is as before, the log included.
A reset, and a crash, start again with the program that was loaded last with success. And whatever
comes after it, more refused loads included, runs as if they had not been attempted. -/
theorem failed_loads_vanish {program : Program} {s : Session κ} (hs : Reached program s)
    {op : Operation κ} {e : Fault} (h : op.refusal? = some e) :
    s.operate op = ⟨s, .error e⟩ ∧
      (∃ u, (s.operate op).session.reset = .ok u ∧
        u.machine = Machine.started s.machine.random program) ∧
      (∀ fault, s.machine.tick = .error fault →
        (s.operate op).session.step.session.machine = Machine.started s.machine.random program) ∧
      ∀ ops : List (Operation κ), let kept := ops.filter Operation.admitted
        (s.course (op :: ops)).filter (·.1.admitted) = s.course kept ∧
          s.trace (op :: ops) = s.trace kept ∧ s.after (op :: ops) = s.after kept := by
  have hstay := operate_of_refusal s h
  obtain ⟨hprogram, hfits⟩ := hs.program_eq
  refine ⟨hstay, ?_, fun fault htick => ?_, fun ops => ?_⟩
  · rw [hstay]
    exact ⟨_, reset_reached hs, rfl⟩
  · subst hprogram
    rw [hstay, step_of_fault hfits htick]
    rfl
  · have hout : op.admitted = false := by simp [Operation.admitted, h]
    have hleave := leave_out s (op :: ops)
    rw [List.filter_cons, hout] at hleave
    exact hleave

/-- Between the cycles of a program that crashes, a file that is not there and one that is too
long. -/
theorem failed_loads_vanish_crashing :
    let settings : SessionSettings Number := ⟨none, .integer 700, .integer 60, 5⟩
    let program : Program := [0x60, 0x07, 0x00, 0xEE]
    let read : FileReader := fun path =>
      if path = "long" then .ok (List.replicate 4000 1) else .error (.unreadable path .missing)
    let s := (fresh settings).after [.loadProgram program, .step]
    let op : Operation Number := .loadProgram (List.replicate 3585 1)
    let ops : List (Operation Number) := [.loadRom read "none", .step, .loadRom read "long", .step]
    Reached program s ∧ op.refusal? = some (.programTooLong 3585) ∧
      s.after (op :: ops) = s.after [.step, .step] ∧
      (s.after [.step, .step]).failure = some ⟨"StackFault: stack underflow: pop with sp=0x00", 1⟩ ∧
      (s.after [.step, .step]).instructions = 1 := by
  intro settings program read s op ops
  have hcreate : create (fun _ => .error .zeroInPath) settings = .ok (fresh settings) :=
    create_fresh rfl (by decide +kernel) (by decide +kernel) (by decide) _
  have hs : Reached program s := ⟨_, settings, _, _, hcreate, by decide +kernel, rfl⟩
  have hop : op.refusal? = some (.programTooLong 3585) := by
    rw [Operation.refusal?, List.length_replicate]
    rfl
  have hmissing : (Operation.loadRom read "none" : Operation Number).admitted = false := rfl
  have hlong : (Operation.loadRom read "long" : Operation Number).admitted = false := by
    decide +kernel
  obtain ⟨-, -, -, hlater⟩ := failed_loads_vanish hs hop
  have hkept : ops.filter Operation.admitted = [.step, .step] := by
    simp only [ops, List.filter_cons, hmissing, hlong]
    rfl
  refine ⟨hs, hop, ?_, by decide +kernel, by decide +kernel⟩
  rw [(hlater ops).2.2, hkept]

end Session

end Chip8
