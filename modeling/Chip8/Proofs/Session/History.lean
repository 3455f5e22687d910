import Chip8.Proofs.Session.Trace
import Chip8.Session.Keypad

/-!
# Histories of a session

**Operations** (`Operation`). What a front end may do to a session. An operation that fails part
way leaves what it has done (`Session.operate`), and the front end may go on (`Session.after`).

**Running** (`Session.trace`). The cycles and timer ticks of a history, in order. A relation that all
running keeps to (`Traced`) holds of the whole history if it holds of every operation that does not
run the machine (`Traced.after`). A property that running keeps (`Kept`) is such a relation.

**The program** (`after_program`). The program that a session reloads is the one loaded last with
success. It always fits into memory (`after_program_fits`), so no reset fails.
-/

namespace Chip8

/-- What a front end may do to a session. -/
inductive Operation (κ : Type) where
  | loadProgram (program : Program)
  /-- Loads a file, from the files there are at that time. -/
  | loadRom (read : FileReader) (path : String)
  | reset
  | step
  | run (cycles : Int)
  | runFor (seconds : κ)
  | sync (now : κ)
  | tickTimers (ticks : Int)
  | pressKey (key : Int)
  | releaseKey (key : Int)
  | toggleKey (key : Int)
  | togglePause
  | increaseFrequency
  | decreaseFrequency
  /-- Assigns the instruction frequency. -/
  | assignFrequency (f : κ)

variable {κ : Type}

/-- The operation runs the machine or its timers. -/
def Operation.runs : Operation κ → Bool
  | .step | .run _ | .runFor _ | .sync _ | .tickTimers _ => true
  | _ => false

/-- The operation handles the keys, the pause or the frequency. -/
def Operation.adjusts : Operation κ → Bool
  | .pressKey _ | .releaseKey _ | .toggleKey _ | .togglePause => true
  | .increaseFrequency | .decreaseFrequency | .assignFrequency _ => true
  | _ => false

/-- The bytes that an operation loads if it succeeds. -/
def Operation.bytes? : Operation κ → Option Program
  | .loadProgram program => some program
  | .loadRom read path => (read path).toOption
  | _ => none

/-- An outcome without the value of its result. -/
def Outcome.forget {α : Type} (o : Outcome κ α) : Outcome κ Unit :=
  ⟨o.session, o.result.map fun _ => ()⟩

namespace Session

/-! ## Loading and counting -/

theorem loadProgram_eq_ok {s t : Session κ} {program : Program}
    (h : s.loadProgram program = .ok t) :
    t.program = program ∧ program.length ≤ longestProgram := by
  obtain ⟨machine, hload, rfl⟩ := exists_of_map_eq_ok h
  exact ⟨rfl, Machine.length_le_of_loadProgram hload⟩

theorem loadRom_eq_ok {read : FileReader} {s t : Session κ} {path : String}
    (h : s.loadRom read path = .ok t) :
    read path = .ok t.program ∧ t.program.length ≤ longestProgram := by
  unfold loadRom at h
  split at h
  · cases h
  · next program hread =>
    obtain ⟨u, hload, rfl⟩ := exists_of_map_eq_ok h
    obtain ⟨rfl, hfits⟩ := loadProgram_eq_ok hload
    exact ⟨hread, hfits⟩

/-- The sessions differ in the memory, the program, the path and the log only. -/
def Loaded (s t : Session κ) : Prop :=
  ∃ memory program romPath log,
    t = { s with machine := { s.machine with memory }, program, romPath, log }

theorem loaded_of_loadProgram {s t : Session κ} {program : Program}
    (h : s.loadProgram program = .ok t) : Loaded s t := by
  obtain ⟨machine, hload, rfl⟩ := exists_of_map_eq_ok h
  rw [Machine.loadProgram_eq_ok (Machine.length_le_of_loadProgram hload)] at hload
  cases hload
  exact ⟨_, _, _, _, rfl⟩

theorem loaded_of_loadRom {read : FileReader} {s t : Session κ} {path : String}
    (h : s.loadRom read path = .ok t) : Loaded s t := by
  unfold loadRom at h
  split at h
  · cases h
  · obtain ⟨u, hload, rfl⟩ := exists_of_map_eq_ok h
    obtain ⟨_, _, _, _, rfl⟩ := loaded_of_loadProgram hload
    exact ⟨_, _, _, _, rfl⟩

theorem counted_machine (s : Session κ) : s.counted.machine = s.machine := by
  unfold counted
  split <;> rfl

theorem counted_status (s : Session κ) : s.counted.status = s.status := by
  unfold counted
  split <;> rfl

variable [ClockArithmetic κ]

/-! ## New sessions -/

/-- A session can be set up without a file. -/
theorem create_fresh {settings : SessionSettings κ} (hpath : settings.romPath = none)
    (hfrequency : frequencyAllowed settings.instructionFrequency = true)
    (htimer : ClockArithmetic.le settings.timerFrequency (ClockArithmetic.ofInt 0) = false)
    (hseed : RandomKey.seedFits settings.seed = true) (read : FileReader) :
    create read settings = .ok (fresh settings) := by
  rw [create, hfrequency, htimer, hseed, hpath]
  rfl

/-- A new session has frequencies that are allowed, and is fresh or has loaded a file. -/
theorem create_eq_ok {read : FileReader} {settings : SessionSettings κ} {s : Session κ}
    (h : create read settings = .ok s) :
    frequencyAllowed settings.instructionFrequency = true ∧
      ClockArithmetic.le settings.timerFrequency (ClockArithmetic.ofInt 0) = false ∧
      (settings.romPath = none ∧ s = fresh settings ∨
        ∃ path, settings.romPath = some path ∧ (fresh settings).loadRom read path = .ok s) := by
  unfold create at h
  split_ifs at h with hfrequency htimer hseed
  refine ⟨by simpa using hfrequency, by simpa using htimer, ?_⟩
  cases hpath : settings.romPath with
  | none =>
    rw [hpath] at h
    cases h
    exact .inl ⟨rfl, rfl⟩
  | some path =>
    rw [hpath] at h
    exact .inr ⟨path, rfl, h⟩

theorem loaded_of_create {read : FileReader} {settings : SessionSettings κ} {s : Session κ}
    (h : create read settings = .ok s) : Loaded (fresh settings) s := by
  obtain ⟨-, -, ⟨-, rfl⟩ | ⟨path, -, hload⟩⟩ := create_eq_ok h
  · exact ⟨_, _, _, _, rfl⟩
  · exact loaded_of_loadRom hload

/-! ## Frequencies -/

theorem setFrequency_session (s : Session κ) (f : κ) :
    ∃ instructionFrequency log,
      (s.setFrequency f).session = { s with instructionFrequency, log } := by
  unfold setFrequency
  split
  · exact ⟨_, _, rfl⟩
  · cases ClockArithmetic.text f <;> exact ⟨_, _, rfl⟩

theorem increaseFrequency_session (s : Session κ) :
    ∃ instructionFrequency log,
      s.increaseFrequency.session = { s with instructionFrequency, log } := by
  unfold increaseFrequency
  split
  · exact ⟨_, _, rfl⟩
  · exact setFrequency_session s _

/-! ## Operations -/

/-- An operation; its result is whether it succeeds. -/
def operate (s : Session κ) : Operation κ → Outcome κ Unit
  | .loadProgram program => s.attempt (s.loadProgram program)
  | .loadRom read path => s.attempt (s.loadRom read path)
  | .reset => s.attempt s.reset
  | .step => s.step.forget
  | .run n => (s.run n).forget
  | .runFor seconds => (s.runFor seconds).forget
  | .sync now => (s.sync now).forget
  | .tickTimers n => s.attempt (s.tickTimers n)
  | .pressKey key => s.attempt (s.pressKey key)
  | .releaseKey key => s.attempt (s.releaseKey key)
  | .toggleKey key => s.attempt (s.toggleKey key)
  | .togglePause => .done s.togglePause ()
  | .increaseFrequency => s.increaseFrequency
  | .decreaseFrequency => s.decreaseFrequency
  | .assignFrequency f => .done { s with instructionFrequency := f } ()

/-- The session after some operations. -/
def after (s : Session κ) (ops : List (Operation κ)) : Session κ :=
  ops.foldl (fun s op => (s.operate op).session) s

/-- The sessions differ in the keys, the pause, the frequency and the log only. -/
def Adjusted (s t : Session κ) : Prop :=
  ∃ keys paused instructionFrequency log,
    t = { s with machine := { s.machine with keys }, paused, instructionFrequency, log }

theorem adjusted_operate (s : Session κ) {op : Operation κ} (h : op.adjusts = true) :
    Adjusted s (s.operate op).session := by
  cases op with
  | pressKey key | releaseKey key | toggleKey key =>
    refine attempt_session ⟨_, _, _, _, rfl⟩ fun t ht => ?_
    obtain ⟨bit, -, rfl⟩ := exists_of_map_eq_ok ht
    exact ⟨_, _, _, _, rfl⟩
  | increaseFrequency =>
    obtain ⟨_, _, hset⟩ := increaseFrequency_session s
    exact ⟨_, _, _, _, hset⟩
  | decreaseFrequency =>
    obtain ⟨_, _, hset⟩ := setFrequency_session s _
    exact ⟨_, _, _, _, hset⟩
  | togglePause | assignFrequency f => exact ⟨_, _, _, _, rfl⟩
  | _ => cases h

/-- What an operation that does not run the machine may leave of a session. -/
inductive Handled (s : Session κ) : Operation κ → Session κ → Prop
  | still (op : Operation κ) : Handled s op s
  | loaded {op : Operation κ} {program : Program} {t : Session κ} (hop : op.bytes? = some program)
      (h : Loaded s t) : Handled s op t
  | adjusted {op : Operation κ} {t : Session κ} (hop : op.adjusts = true) (h : Adjusted s t) :
      Handled s op t
  | reset {t : Session κ} (h : s.reset = .ok t) : Handled s .reset t

theorem handled (s : Session κ) {op : Operation κ} (h : op.runs = false) :
    Handled s op (s.operate op).session := by
  cases op with
  | loadProgram program =>
    exact attempt_session (.still _) fun _ ht => .loaded rfl (loaded_of_loadProgram ht)
  | loadRom read path =>
    refine attempt_session (.still _) fun t ht => ?_
    have hbytes : (Operation.loadRom read path : Operation κ).bytes? = some t.program := by
      rw [Operation.bytes?, (loadRom_eq_ok ht).1]
      rfl
    exact .loaded hbytes (loaded_of_loadRom ht)
  | reset => exact attempt_session (.still _) fun _ ht => .reset ht
  | step | run n | runFor seconds | sync now | tickTimers n => cases h
  | _ => exact .adjusted rfl (adjusted_operate s rfl)

/-! ## Running -/

def operateTrace (s : Session κ) : Operation κ → List (Event κ)
  | .step => [.cycle s]
  | .run n => s.runTrace n
  | .runFor seconds => s.runForTrace seconds
  | .sync now => s.syncTrace now
  | .tickTimers n => ifOk (s.tickTimers n) fun _ => [.timers n]
  | _ => []

/-- The trace of some operations. -/
def trace (s : Session κ) : List (Operation κ) → List (Event κ)
  | [] => []
  | op :: ops => s.operateTrace op ++ (s.operate op).session.trace ops

namespace Traced

variable {R : Session κ → List (Event κ) → Session κ → Prop}

theorem operate (h : Traced R) (s : Session κ) {op : Operation κ} (hop : op.runs = true) :
    R s (s.operateTrace op) (s.operate op).session := by
  cases op with
  | step => exact h.step s
  | run n => exact h.run s n
  | runFor seconds => exact h.runFor s seconds
  | sync now => exact h.sync s now
  | tickTimers n =>
    rw [operateTrace, Session.operate]
    cases ht : s.tickTimers n with
    | ok t => exact h.timers ht
    | error e => exact h.refl s
  | _ => cases hop

theorem operateTrace_of_not_runs (s : Session κ) {op : Operation κ} (hop : op.runs = false) :
    s.operateTrace op = [] := by
  cases op <;> first | rfl | cases hop

/-- **A relation that running keeps to holds of a whole history**, if it holds of its operations that
do not run the machine. -/
theorem after (h : Traced R) {ops : List (Operation κ)}
    (hidle : ∀ s, ∀ op ∈ ops, op.runs = false → R s [] (s.operate op).session) (s : Session κ) :
    R s (s.trace ops) (s.after ops) := by
  induction ops generalizing s with
  | nil => exact h.refl s
  | cons op ops ih =>
    have hrest := ih (fun t o ho => hidle t o (List.mem_cons_of_mem _ ho)) (s.operate op).session
    refine h.trans ?_ hrest
    cases hop : op.runs with
    | true => exact h.operate s hop
    | false =>
      rw [operateTrace_of_not_runs s hop]
      exact hidle s op List.mem_cons_self hop

end Traced

/-- A property of sessions that running keeps. -/
structure Kept (P : Session κ → Prop) : Prop where
  step {s : Session κ} (hs : P s) : P s.step.session
  timers {s : Session κ} (n : Int32) (hs : P s) :
    P { s with machine := s.machine.tickTimers n }
  debt {s : Session κ} (debt : κ) (hs : P s) : P { s with debt }
  clock {s : Session κ} (clock : κ) (hs : P s) : P { s with clock }
  lastSync {s : Session κ} (lastSync : Option κ) (hs : P s) : P { s with lastSync }

theorem Kept.tickTimers {P : Session κ → Prop} (h : Kept P) {s t : Session κ} {n : Int}
    (hs : P s) (ht : s.tickTimers n = .ok t) : P t := by
  rw [tickTimers_eq_ok ht]
  exact h.timers _ hs

theorem Kept.traced {P : Session κ → Prop} (h : Kept P) : Traced fun s _ t => P s → P t where
  trans hab hbc hs := hbc (hab hs)
  step _ := h.step
  timers ht hs := h.tickTimers hs ht
  debt _ := h.debt
  clock _ := h.clock
  lastSync _ := h.lastSync

/-! ## The program -/

theorem reset_program {s t : Session κ} (h : s.reset = .ok t) : t.program = s.program := by
  obtain ⟨machine, -, rfl⟩ := exists_of_map_eq_ok h
  rfl

theorem step_program (s : Session κ) : s.step.session.program = s.program := by
  have h := stepped s
  generalize s.step.session = t at h ⊢
  cases h <;> rfl

theorem kept_program (program : Program) : Kept fun s : Session κ => s.program = program where
  step hs := (step_program _).trans hs
  timers _ hs := hs
  debt _ hs := hs
  clock _ hs := hs
  lastSync _ hs := hs

/-- The program loaded last with success, `program` being it before an operation. -/
def loadedAfter (s : Session κ) (op : Operation κ) (program : Program) : Program :=
  match (s.operate op).result with
  | .ok _ => op.bytes?.getD program
  | .error _ => program

/-- The program loaded last with success, `program` being it before some operations. -/
def lastLoaded (s : Session κ) (program : Program) : List (Operation κ) → Program
  | [] => program
  | op :: ops => (s.operate op).session.lastLoaded (s.loadedAfter op program) ops

theorem loadedAfter_of_bytes? {s : Session κ} {op : Operation κ} {program : Program}
    (h : op.bytes? = none) : s.loadedAfter op program = program := by
  rw [loadedAfter, h]
  split <;> rfl

/-- An operation without bytes to load leaves the program to be reloaded. -/
theorem operate_program_of_bytes? (s : Session κ) {op : Operation κ} (h : op.bytes? = none) :
    (s.operate op).session.program = s.program := by
  cases hruns : op.runs with
  | true => exact (kept_program s.program).traced.operate s hruns rfl
  | false =>
    have hhandled := handled s hruns
    generalize (s.operate op).session = t at hhandled ⊢
    cases hhandled with
    | still => rfl
    | loaded hbytes => cases h.symm.trans hbytes
    | adjusted _ hadjusted =>
      obtain ⟨_, _, _, _, rfl⟩ := hadjusted
      rfl
    | reset hreset => exact reset_program hreset

/-- An operation with bytes to load attempts to load them. -/
theorem operate_of_bytes? (s : Session κ) {op : Operation κ} {program : Program}
    (h : op.bytes? = some program) :
    ∃ r, s.operate op = s.attempt r ∧
      ∀ t, r = .ok t → t.program = program ∧ program.length ≤ longestProgram := by
  cases op with
  | loadProgram bytes =>
    cases h
    exact ⟨_, rfl, fun t => loadProgram_eq_ok⟩
  | loadRom read path =>
    refine ⟨_, rfl, fun t ht => ?_⟩
    obtain ⟨hread, hfits⟩ := loadRom_eq_ok ht
    rw [Operation.bytes?, hread] at h
    cases h
    exact ⟨rfl, hfits⟩
  | _ => cases h

/-- **The program to be reloaded is the one loaded last with success.** -/
theorem operate_program (s : Session κ) (op : Operation κ) :
    (s.operate op).session.program = s.loadedAfter op s.program := by
  cases hb : op.bytes? with
  | none => rw [loadedAfter_of_bytes? hb, operate_program_of_bytes? s hb]
  | some program =>
    obtain ⟨r, hop, hload⟩ := operate_of_bytes? s hb
    rw [loadedAfter, hop, hb]
    cases r with
    | ok t => exact (hload t rfl).1
    | error e => rfl

theorem operate_program_fits {s : Session κ} (op : Operation κ)
    (h : s.program.length ≤ longestProgram) :
    (s.operate op).session.program.length ≤ longestProgram := by
  cases hb : op.bytes? with
  | none =>
    rw [operate_program_of_bytes? s hb]
    exact h
  | some program =>
    obtain ⟨r, hop, hload⟩ := operate_of_bytes? s hb
    rw [hop]
    refine attempt_session (P := fun t => t.program.length ≤ longestProgram) h fun t ht => ?_
    obtain ⟨rfl, hfits⟩ := hload t ht
    exact hfits

theorem after_program (s : Session κ) (ops : List (Operation κ)) :
    (s.after ops).program = s.lastLoaded s.program ops := by
  induction ops generalizing s with
  | nil => rfl
  | cons op ops ih =>
    rw [lastLoaded, ← operate_program]
    exact ih (s.operate op).session

theorem after_program_fits {s : Session κ} (ops : List (Operation κ))
    (h : s.program.length ≤ longestProgram) :
    (s.after ops).program.length ≤ longestProgram := by
  induction ops generalizing s with
  | nil => exact h
  | cons op ops ih => exact ih (operate_program_fits op h)

end Session

end Chip8
