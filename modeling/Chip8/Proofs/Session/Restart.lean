import Chip8.Proofs.Session.Recovery

/-!
# Resets

**The machine after a reset** (`Machine.AtStart`). The font, the program and zeros in memory, the
program counter at the first instruction, and zero in all else: nothing of what the session did is
left but the random key. The program is the one loaded last with success, so a program that was
refused leaves nothing either, and since it fits, no reset fails (`reset_reached`).

**Twins** (`Twins`). Two sessions that agree in machine, status, counter, failure and program go on
alike under all operations that the clock does not pace, crashes included. Hence so do two sessions
after a reset, whatever their histories were (`reset_erases`).
-/

namespace Chip8

/-- The machine is before the first instruction of a program. -/
structure Machine.AtStart (program : Program) (m : Machine) : Prop where
  font (i : Nat) (h : i < 80) : m.memory[i] = Font.glyphs[i]
  loaded (i : Nat) (h : i < program.length) : m.memory[0x200 + i]? = some program[i]
  rest (i : Nat) (h : i < 4096) :
    80 ≤ i → i < 0x200 ∨ 0x200 + program.length ≤ i → m.memory[i] = 0
  pc : m.pc = 0x200
  registers (x : Register) : m.register x = 0
  stack (i : Nat) (h : i < 64) : m.stack[i] = 0
  screen (i : Nat) (h : i < 256) : m.screen[i] = 0
  index : m.index = 0
  sp : m.sp = 0
  delay : m.delay = 0
  sound : m.sound = 0
  keys : m.keys = 0

namespace Machine

theorem startMemory_inside {program : Program} {i : Nat} (hi : i < program.length)
    (h : 0x200 + i < 4096) : (startMemory program)[0x200 + i] = program[i] := by
  have hinside : 0x200 ≤ 0x200 + i ∧ 0x200 + i < 0x200 + program.length := by omega
  rw [startMemory, Vector.getElem_ofFn, dif_pos hinside]
  simp only [Nat.add_sub_cancel_left]

theorem startMemory_outside {program : Program} {i : Nat} (h : i < 4096)
    (hi : ¬ (0x200 ≤ i ∧ i < 0x200 + program.length)) :
    (startMemory program)[i] = Font.glyphs.getD i 0 := by
  rw [startMemory, Vector.getElem_ofFn, dif_neg hi]

theorem started_atStart (random : RandomKey) {program : Program}
    (h : program.length ≤ longestProgram) : (started random program).AtStart program where
  font i hi := by
    have hcell : i < 4096 := by omega
    have hbelow : ¬ (0x200 ≤ i ∧ i < 0x200 + program.length) := by omega
    exact (startMemory_outside hcell hbelow).trans (List.getD_eq_getElem _ _ hi)
  loaded i hi := by
    have hcell : 0x200 + i < 4096 := by
      have hlongest : longestProgram = 3584 := rfl
      omega
    exact (Vector.getElem?_eq_getElem hcell).trans (congrArg some (startMemory_inside hi hcell))
  rest i hi hfont hprogram := by
    have houtside : ¬ (0x200 ≤ i ∧ i < 0x200 + program.length) := by omega
    exact (startMemory_outside hi houtside).trans (List.getD_eq_default _ _ hfont)
  pc := rfl
  registers x := Vector.getElem_replicate _
  stack i h := Vector.getElem_replicate h
  screen i h := Vector.getElem_replicate h
  index := rfl
  sp := rfl
  delay := rfl
  sound := rfl
  keys := rfl

end Machine

variable {κ : Type}

/-- The operation neither depends on the clocks and the frequencies nor changes them. -/
def Operation.unpaced : Operation κ → Bool
  | .loadProgram _ | .loadRom _ _ | .reset | .step | .tickTimers _ => true
  | .pressKey _ | .releaseKey _ | .toggleKey _ => true
  | _ => false

namespace Session

/-! ## Twins -/

/-- The sessions agree in the machine, the status, the counter, the failure and the program. -/
def Twins (s t : Session κ) : Prop :=
  ∃ paused romPath debt clock lastSync instructionFrequency timerFrequency log, t = { s with
    paused, romPath, debt, clock, lastSync, instructionFrequency, timerFrequency, log }

theorem Twins.machine {s t : Session κ} (h : Twins s t) : s.machine = t.machine := by
  obtain ⟨_, _, _, _, _, _, _, _, rfl⟩ := h
  rfl

theorem Twins.status {s t : Session κ} (h : Twins s t) : s.status = t.status := by
  obtain ⟨_, _, _, _, _, _, _, _, rfl⟩ := h
  rfl

/-- Both succeed with twins, or fail alike. -/
inductive SameResult : Except Fault (Session κ) → Except Fault (Session κ) → Prop
  | ok {s t : Session κ} (h : Twins s t) : SameResult (.ok s) (.ok t)
  | error (e : Fault) : SameResult (.error e) (.error e)

namespace SameResult

theorem of_map {α : Type} (x : Except Fault α) {f g : α → Session κ}
    (h : ∀ a, Twins (f a) (g a)) : SameResult (x.map f) (x.map g) := by
  cases x with
  | ok a => exact .ok (h a)
  | error e => exact .error e

theorem map {r r' : Except Fault (Session κ)} (hr : SameResult r r') {f g : Session κ → Session κ}
    (h : ∀ s t, Twins s t → Twins (f s) (g t)) : SameResult (r.map f) (r'.map g) := by
  cases hr with
  | ok hst => exact .ok (h _ _ hst)
  | error e => exact .error e

theorem attempt {r r' : Except Fault (Session κ)} (hr : SameResult r r') {s t : Session κ}
    (h : Twins s t) : (s.attempt r).result = (t.attempt r').result ∧
      Twins (s.attempt r).session (t.attempt r').session := by
  cases hr with
  | ok hst => exact ⟨rfl, hst⟩
  | error e => exact ⟨rfl, h⟩

end SameResult

namespace Twins

variable {s t : Session κ}

theorem loadProgram (h : Twins s t) (program : Program) :
    SameResult (s.loadProgram program) (t.loadProgram program) := by
  obtain ⟨_, _, _, _, _, _, _, _, rfl⟩ := h
  exact .of_map _ fun machine => ⟨_, _, _, _, _, _, _, _, rfl⟩

theorem loadRom (h : Twins s t) (read : FileReader) (path : String) :
    SameResult (s.loadRom read path) (t.loadRom read path) := by
  unfold Session.loadRom
  cases read path with
  | error e => exact .error e
  | ok program =>
    refine (h.loadProgram program).map fun u v huv => ?_
    obtain ⟨_, _, _, _, _, _, _, _, rfl⟩ := huv
    exact ⟨_, _, _, _, _, _, _, _, rfl⟩

theorem tickTimers (h : Twins s t) (n : Int) : SameResult (s.tickTimers n) (t.tickTimers n) := by
  unfold Session.tickTimers
  split
  · exact .ok h
  · obtain ⟨_, _, _, _, _, _, _, _, rfl⟩ := h
    exact .of_map _ fun w => ⟨_, _, _, _, _, _, _, _, rfl⟩

/-- A change of the keys that depends on the keys held. -/
theorem keys (h : Twins s t) (bit : Except Fault UInt16) (change : UInt16 → UInt16 → UInt16) :
    SameResult (bit.map fun bit => s.setKeys (change s.machine.keys bit))
      (bit.map fun bit => t.setKeys (change t.machine.keys bit)) := by
  obtain ⟨_, _, _, _, _, _, _, _, rfl⟩ := h
  exact .of_map _ fun bit => ⟨_, _, _, _, _, _, _, _, rfl⟩

variable [ClockArithmetic κ]

theorem reset (h : Twins s t) : SameResult s.reset t.reset := by
  obtain ⟨_, _, _, _, _, _, _, _, rfl⟩ := h
  exact .of_map _ fun machine => ⟨_, _, _, _, _, _, _, _, rfl⟩

theorem recover (h : Twins s t) (fault : StackFault) :
    (s.recover fault).result = (t.recover fault).result ∧
      Twins (s.recover fault).session (t.recover fault).session := by
  have hfailure : t.failureOf fault = s.failureOf fault := by
    obtain ⟨_, _, _, _, _, _, _, _, rfl⟩ := h
    rfl
  have hcrashed (text : String) : Twins (s.logged .error text) (t.logged .error text) := by
    obtain ⟨_, _, _, _, _, _, _, _, rfl⟩ := h
    exact ⟨_, _, _, _, _, _, _, _, rfl⟩
  -- The crash stands in the log before the reset, which does not look at it.
  have hreset := (hcrashed (crashText (s.failureOf fault))).reset
  simp only [Session.recover, hfailure]
  generalize (s.logged .error (crashText (s.failureOf fault))).reset = r at hreset ⊢
  generalize (t.logged .error (crashText (s.failureOf fault))).reset = r' at hreset ⊢
  cases hreset with
  | error e => exact ⟨rfl, hcrashed _⟩
  | ok hrestarted =>
    obtain ⟨_, _, _, _, _, _, _, _, rfl⟩ := hrestarted
    exact ⟨rfl, ⟨_, _, _, _, _, _, _, _, rfl⟩⟩

theorem step (h : Twins s t) :
    s.step.result = t.step.result ∧ Twins s.step.session t.step.session := by
  have htwins := h
  obtain ⟨_, _, _, _, _, _, _, _, rfl⟩ := h
  unfold Session.step
  cases s.machine.tick with
  | error fault => exact htwins.recover fault
  | ok r =>
    obtain ⟨machine, status⟩ := r
    refine ⟨rfl, ?_⟩
    cases status <;> exact ⟨_, _, _, _, _, _, _, _, rfl⟩

/-- Twins go on alike under an operation that the clock does not pace. -/
theorem operate (h : Twins s t) {op : Operation κ} (hop : op.unpaced = true) :
    (s.operate op).result = (t.operate op).result ∧
      Twins (s.operate op).session (t.operate op).session := by
  cases op with
  | loadProgram program => exact (h.loadProgram program).attempt h
  | loadRom read path => exact (h.loadRom read path).attempt h
  | reset => exact h.reset.attempt h
  | tickTimers n => exact (h.tickTimers n).attempt h
  | pressKey key => exact (h.keys (keyBit key) (· ||| ·)).attempt h
  | releaseKey key => exact (h.keys (keyBit key) (· &&& ~~~·)).attempt h
  | toggleKey key => exact (h.keys (keyBit key) (· ^^^ ·)).attempt h
  | step =>
    obtain ⟨hresult, htwins⟩ := h.step
    refine ⟨?_, htwins⟩
    show s.step.result.map _ = t.step.result.map _
    rw [hresult]
  | _ => cases hop

theorem after (h : Twins s t) {ops : List (Operation κ)} (hops : ∀ op ∈ ops, op.unpaced = true) :
    Twins (s.after ops) (t.after ops) := by
  induction ops generalizing s t with
  | nil => exact h
  | cons op ops ih =>
    exact ih (h.operate (hops op List.mem_cons_self)).2 fun o ho =>
      hops o (List.mem_cons_of_mem _ ho)

end Twins

/-! ## Histories -/

variable [ClockArithmetic κ]

/-- The session has come about by some history in which `program` was loaded last with success. -/
def Reached (program : Program) (s : Session κ) : Prop :=
  ∃ (read : FileReader) (settings : SessionSettings κ) (s₀ : Session κ) (ops : List (Operation κ)),
    create read settings = .ok s₀ ∧ s₀.lastLoaded (settings.program read) ops = program ∧
      s = s₀.after ops

theorem Reached.program_eq {program : Program} {s : Session κ} (h : Reached program s) :
    s.program = program ∧ program.length ≤ longestProgram := by
  obtain ⟨read, settings, s₀, ops, hcreate, hlast, rfl⟩ := h
  obtain ⟨hprogram, hfits⟩ := create_program hcreate
  have hafter := after_program s₀ ops
  rw [hprogram, hlast] at hafter
  exact ⟨hafter, hafter ▸ after_program_fits ops hfits⟩

/-- No reset fails, and what it leaves is one machine for a random key and a program. -/
theorem reset_reached {program : Program} {s : Session κ} (h : Reached program s) :
    s.reset = .ok ((s.restarted (Machine.started s.machine.random program)).logged .debug
      "Machine reset") := by
  obtain ⟨hprogram, hfits⟩ := h.program_eq
  subst hprogram
  exact reset_eq_ok hfits

theorem Twins.of_reset {program : Program} {s t : Session κ} (hs : Reached program s)
    (ht : Reached program t) (m : Machine) (entry : String) :
    Twins ((s.restarted m).logged .debug entry) ((t.restarted m).logged .debug entry) := by
  have hprogram : t.program = s.program := ht.program_eq.1.trans hs.program_eq.1.symm
  refine ⟨t.paused, t.romPath, ClockArithmetic.zero, t.clock, t.lastSync, t.instructionFrequency,
    t.timerFrequency, ⟨.debug, entry⟩ :: t.log, ?_⟩
  simp only [restarted, logged, hprogram]

/-- **A reset erases history.** Take two sessions that came about by any histories, with the same
random key and the same program loaded last with success. Both can be reset, and the machines are
then equal: nothing is in memory but the font and the program, the program counter is at the first
instruction, and all else is zero. Another reset changes nothing, and under any further operations
that the clock does not pace, machines, statuses and results of cycles stay equal. -/
theorem reset_erases {program : Program} {s t : Session κ} (hs : Reached program s)
    (ht : Reached program t) (hrandom : s.machine.random = t.machine.random) :
    ∃ u v, s.reset = .ok u ∧ t.reset = .ok v ∧ u.machine = v.machine ∧
      (u.machine.AtStart program ∧ u.machine.random = s.machine.random) ∧
      (∃ w, u.reset = .ok w ∧ w.machine = u.machine) ∧
      ∀ ops : List (Operation κ), (∀ op ∈ ops, op.unpaced = true) →
        (u.after ops).machine = (v.after ops).machine ∧
          (u.after ops).status = (v.after ops).status ∧
          (u.after ops).step.result = (v.after ops).step.result := by
  obtain ⟨hprogram, hfits⟩ := hs.program_eq
  have htwins := Twins.of_reset hs ht (Machine.started s.machine.random program) "Machine reset"
  have hreset := reset_reached ht
  rw [← hrandom] at hreset
  refine ⟨_, _, reset_reached hs, hreset, rfl, ⟨Machine.started_atStart _ hfits, rfl⟩,
    ⟨_, reset_eq_ok ?_, ?_⟩, fun ops hops => ?_⟩
  · exact hprogram ▸ hfits
  · subst hprogram
    rfl
  · have hafter := htwins.after hops
    exact ⟨hafter.machine, hafter.status, hafter.step.1⟩

/-- A session with a longer program, which wrote over the font and its own code and crashed, and ran
again when a shorter one was loaded; and a session that only loaded the shorter one. -/
theorem reset_erases_overwritten :
    let settings : SessionSettings Number := ⟨none, .integer 700, .integer 60, 5⟩
    let overwriting : Program := [0x61, 0x33, 0xA0, 0x02, 0xF1, 0x55, 0xA2, 0x0A, 0xF1, 0x33,
      0x12, 0x00, 0x00, 0xEE, 0x00, 0xEE]
    let program : Program := [0x60, 0x07]
    let s := (fresh settings).after (.loadProgram overwriting :: List.replicate 8 .step ++
      [.pressKey 3, .step, .step, .step, .loadProgram program])
    let t := (fresh settings).after [.loadProgram program]
    Reached program s ∧ Reached program t ∧ s.machine.random = t.machine.random ∧
      (s.machine ≠ t.machine ∧
        s.failure = some ⟨"StackFault: stack underflow: pop with sp=0x00", 7⟩) ∧
      ∃ u v, s.reset = .ok u ∧ t.reset = .ok v ∧ u.machine = v.machine := by
  intro settings overwriting program s t
  have hcreate : create (fun _ => .error .zeroInPath) settings = .ok (fresh settings) :=
    create_fresh rfl (by decide +kernel) (by decide +kernel) (by decide) _
  have hs : Reached program s := ⟨_, settings, _, _, hcreate, by decide +kernel, rfl⟩
  have ht : Reached program t := ⟨_, settings, _, _, hcreate, by decide +kernel, rfl⟩
  have hrandom : s.machine.random = t.machine.random := by decide +kernel
  have hhistory : s.machine ≠ t.machine ∧
      s.failure = some ⟨"StackFault: stack underflow: pop with sp=0x00", 7⟩ := by decide +kernel
  obtain ⟨u, v, hu, hv, hmachine, -⟩ := reset_erases hs ht hrandom
  exact ⟨hs, ht, hrandom, hhistory, u, v, hu, hv, hmachine⟩

end Session

end Chip8
