import Chip8.Proofs.Machine.Cadence
import Chip8.Proofs.Machine.PowerOn
import Chip8.Session.Pacing

/-!
# Traces of a session

**Events** (`Event`). However it is paced, a session does two things to its machine: it runs cycles
and gives ticks to the timers. The trace of a call lists both in order, each cycle with the session
it starts from. A call that fails part way has done what stands in its trace.

**One cycle** (`stepped`). A cycle without a fault takes over what the machine's cycle leaves. One
with a fault starts the session again, or, if that fails, only logs it.

**Relations** (`Traced`). A relation between two sessions and the trace between them that holds of a
cycle, of timer ticks and of changes of the debt and the clocks, and that composes, holds of all that
`run`, `runFor` and `sync` do, whether they succeed or fail.

**The machine** (`traced_play`). Without a fault, the trace is all that happens to the machine: its
beats, played from the machine before, lead to the machine after.
-/

namespace Chip8

/-- What a session does to its machine. -/
inductive Event (κ : Type) where
  /-- A cycle, with the session it starts from. -/
  | cycle (start : Session κ)
  /-- Ticks given to the timers. -/
  | timers (ticks : Int)

variable {κ α β : Type}

namespace Event

def ticks : Event κ → Int
  | cycle _ => 0
  | timers n => n

def beat : Event κ → Beat
  | cycle _ => .cycle
  | timers n => .timers (Int32.ofInt n)

end Event

def ticksGiven (events : List (Event κ)) : Int := (events.map Event.ticks).sum

theorem ticksGiven_append (a b : List (Event κ)) :
    ticksGiven (a ++ b) = ticksGiven a + ticksGiven b := by
  rw [ticksGiven, List.map_append, List.sum_append]
  rfl

/-! ## Outcomes -/

theorem Outcome.done_next (s : Session κ) (a : α) (f : Session κ → α → Outcome κ β) :
    (Outcome.done s a).next f = f s a := rfl

theorem exists_of_map_eq_ok {ε α β : Type} {x : Except ε α} {f : α → β} {b : β}
    (h : x.map f = .ok b) : ∃ a, x = .ok a ∧ f a = b := by
  cases x with
  | ok a =>
    cases h
    exact ⟨a, rfl, rfl⟩
  | error e => cases h

/-- A part of a trace that stands there after a success only. -/
def ifOk (r : Except Fault α) (events : α → List (Event κ)) : List (Event κ) :=
  match r with
  | .ok a => events a
  | .error _ => []

theorem ifOk_ok (a : α) (events : α → List (Event κ)) : ifOk (.ok a) events = events a := rfl

theorem ifOk_next (o : Outcome κ α) (f : Session κ → α → Outcome κ β)
    (events : β → List (Event κ)) :
    ifOk (o.next f).result events = ifOk o.result fun a => ifOk (f o.session a).result events := by
  unfold Outcome.next
  cases o.result <;> rfl

namespace Session

open ClockArithmetic

theorem attempt_session {P : Session κ → Prop} {s : Session κ}
    {r : Except Fault (Session κ)} (hs : P s) (hr : ∀ t, r = .ok t → P t) :
    P (s.attempt r).session := by
  cases r with
  | ok t => exact hr t rfl
  | error e => exact hs

/-! ## One tick, one cycle -/

theorem tickTimers_eq_ok {s t : Session κ} {ticks : Int} (h : s.tickTimers ticks = .ok t) :
    t = { s with machine := s.machine.tickTimers (Int32.ofInt ticks) } := by
  unfold tickTimers at h
  split at h
  · next hzero =>
    cases h
    subst hzero
    show s = { s with machine := s.machine.tickTimers 0 }
    rw [Machine.tickTimers_zero]
  · obtain ⟨n, hn, rfl⟩ := exists_of_map_eq_ok h
    unfold narrow narrow? at hn
    split_ifs at hn
    cases hn
    rfl

theorem counted_eq (s : Session κ) : ∃ instructions, s.counted = { s with instructions } := by
  unfold counted
  split
  · exact ⟨_, rfl⟩
  · exact ⟨s.instructions, rfl⟩

variable [ClockArithmetic κ]

/-- What a cycle may leave of a session. -/
inductive Stepped (s : Session κ) : Session κ → Prop
  | ticked {machine : Machine} {status : Status} (h : s.machine.tick = .ok (machine, status))
      (instructions : Nat) : Stepped s { s with machine, status, instructions }
  | stuck {fault : StackFault} (h : s.machine.tick = .error fault) (log : List Entry) :
      Stepped s { s with log }
  | restarted {fault : StackFault} {machine : Machine} (h : s.machine.tick = .error fault)
      (hload : s.machine.reset.loadProgram s.program = .ok machine) (failure : Option Failure)
      (log : List Entry) :
      Stepped s { s.restarted machine with failure, log }

theorem stepped (s : Session κ) : Stepped s s.step.session := by
  unfold step
  split
  · next fault htick =>
    rw [recover]
    split
    · exact .stuck htick _
    · next hreset =>
      obtain ⟨machine, hload, rfl⟩ := exists_of_map_eq_ok hreset
      exact .restarted htick hload _ _
  · next machine status htick =>
    obtain ⟨instructions, hcounted⟩ := counted_eq { s with machine, status }
    show Stepped s { s with machine, status }.counted
    rw [hcounted]
    exact .ticked htick instructions

/-! ## The trace of a call -/

/-- The trace of some repetitions, which end with the first that fails. -/
def repeatTrace (events : Session κ → List (Event κ)) (advance : Session κ → Outcome κ α) :
    Nat → Session κ → List (Event κ)
  | 0, _ => []
  | n + 1, s =>
    events s ++ ifOk (advance s).result fun _ => repeatTrace events advance n (advance s).session

/-- The trace of a cycle with the ticks due after it. -/
def cycleTrace (perCycle : κ) (s : Session κ) : List (Event κ) :=
  .cycle s :: ifOk (s.cycle perCycle).result fun ticks => [.timers ticks]

/-- The trace of some cycles with the ticks due after each. -/
def cyclesTrace (perCycle : κ) (n : Nat) (s : Session κ) : List (Event κ) :=
  repeatTrace (cycleTrace perCycle) (fun s => s.cycle perCycle) n s

def runTrace (s : Session κ) (n : Int) : List (Event κ) :=
  if s.paused then []
  else ifOk (div s.timerFrequency s.instructionFrequency) fun perCycle =>
    cyclesTrace perCycle n.toNat s

def stepsTrace (n : Nat) (s : Session κ) : List (Event κ) :=
  repeatTrace (fun s => [.cycle s]) step n s

def catchUpTrace (s : Session κ) (last now : κ) : List (Event κ) :=
  ifOk (ticksBetween last now s.instructionFrequency) fun due =>
    stepsTrace due.toNat s ++ ifOk (s.catchUp last now).result fun w => [.timers w.ticks]

def runForTrace (s : Session κ) (seconds : κ) : List (Event κ) :=
  if s.paused then []
  else ifOk (add s.clock seconds) fun now => { s with clock := now }.catchUpTrace s.clock now

def syncTrace (s : Session κ) (now : κ) : List (Event κ) :=
  match s.lastSync with
  | none => []
  | some last =>
    ifOk (sub now last) fun elapsed =>
      { s with lastSync := some now }.runForTrace (larger zero elapsed)

/-! ## Relations over a trace -/

/-- A relation between two sessions and the trace between them that running keeps to. -/
structure Traced (R : Session κ → List (Event κ) → Session κ → Prop) : Prop where
  trans {s t u : Session κ} {a b : List (Event κ)} : R s a t → R t b u → R s (a ++ b) u
  step (s : Session κ) : R s [.cycle s] s.step.session
  timers {s t : Session κ} {ticks : Int} : s.tickTimers ticks = .ok t → R s [.timers ticks] t
  debt (s : Session κ) (debt : κ) : R s [] { s with debt }
  clock (s : Session κ) (clock : κ) : R s [] { s with clock }
  lastSync (s : Session κ) (lastSync : Option κ) : R s [] { s with lastSync }

namespace Traced

variable {R : Session κ → List (Event κ) → Session κ → Prop}

theorem refl (h : Traced R) (s : Session κ) : R s [] s := h.debt s s.debt

/-- What comes after a success stands at the end of the trace. -/
theorem next (h : Traced R) {s : Session κ} {o : Outcome κ α} {f : Session κ → α → Outcome κ β}
    (before : List (Event κ)) {rest : α → List (Event κ)} (ho : R s before o.session)
    (hf : ∀ a, R o.session (rest a) (f o.session a).session) :
    R s (before ++ ifOk o.result rest) (o.next f).session := by
  unfold Outcome.next ifOk
  cases o.result with
  | ok a => exact h.trans ho (hf a)
  | error e =>
    rw [List.append_nil]
    exact ho

/-- The same, where the trace is empty up to the success. -/
theorem nextIdle (h : Traced R) {s : Session κ} {o : Outcome κ α} {f : Session κ → α → Outcome κ β}
    {rest : α → List (Event κ)} (ho : R s [] o.session)
    (hf : ∀ a, R o.session (rest a) (f o.session a).session) :
    R s (ifOk o.result rest) (o.next f).session :=
  h.next [] ho hf

theorem tickTimers (h : Traced R) (s : Session κ) (ticks : Int) (a : α) {g : α → Int}
    (hg : g a = ticks) :
    let o := (s.attempt (s.tickTimers ticks)).next fun s _ => .done s a
    R s (ifOk o.result fun a => [.timers (g a)]) o.session := by
  subst hg
  cases ht : s.tickTimers (g a) with
  | ok t => exact h.timers ht
  | error e => exact h.refl s

theorem settle (h : Traced R) (s : Session κ) :
    R s (ifOk s.settle.result fun ticks => [.timers ticks]) s.settle.session := by
  unfold Session.settle
  split
  · exact h.refl s
  · next due _ =>
    split
    · next hdue =>
      subst hdue
      exact h.timers (if_pos rfl)
    · -- The debt is paid before the ticks are given, and stays so if they are refused.
      have hpaid : R s [] (s.attempt (s.payDebt due)).session := by
        refine attempt_session (h.refl s) fun t ht => ?_
        obtain ⟨debt, -, rfl⟩ := exists_of_map_eq_ok ht
        exact h.debt s debt
      rw [ifOk_next]
      exact h.nextIdle hpaid fun _ => h.tickTimers _ due due rfl

theorem cycle (h : Traced R) (perCycle : κ) (s : Session κ) :
    R s (cycleTrace perCycle s) (s.cycle perCycle).session := by
  have hdebt (t : Session κ) : R t [] (t.attempt (t.addDebt perCycle)).session := by
    refine attempt_session (h.refl t) fun u hu => ?_
    obtain ⟨debt, -, rfl⟩ := exists_of_map_eq_ok hu
    exact h.debt t debt
  rw [cycleTrace, Session.cycle, ifOk_next]
  refine h.next [.cycle s] (h.step s) fun _ => ?_
  rw [ifOk_next]
  exact h.nextIdle (hdebt _) fun _ => h.settle _

theorem cycles (h : Traced R) (perCycle : κ) (n : Nat) (s : Session κ) (w : Work) :
    R s (cyclesTrace perCycle n s) (Session.cycles perCycle n s w).session := by
  induction n generalizing s w with
  | zero => exact h.refl s
  | succ n ih =>
    rw [cycles_succ]
    exact h.next _ (h.cycle perCycle s) fun _ => ih _ _

theorem run (h : Traced R) (s : Session κ) (n : Int) : R s (s.runTrace n) (s.run n).session := by
  rw [runTrace, run_eq]
  split
  · exact h.refl s
  · cases div s.timerFrequency s.instructionFrequency with
    | ok perCycle => exact h.cycles perCycle n.toNat s _
    | error e => exact h.refl s

theorem steps (h : Traced R) (n : Nat) (s : Session κ) :
    R s (stepsTrace n s) (Session.steps n s).session := by
  induction n generalizing s with
  | zero => exact h.refl s
  | succ n ih => exact h.next _ (h.step s) fun _ => ih _

theorem catchUp (h : Traced R) (s : Session κ) (last now : κ) :
    R s (s.catchUpTrace last now) (s.catchUp last now).session := by
  unfold catchUpTrace Session.catchUp
  cases ticksBetween last now s.instructionFrequency with
  | error e => exact h.refl s
  | ok due =>
    rw [ifOk_ok, ifOk_next]
    refine h.next _ (h.steps due.toNat s) fun _ => ?_
    cases ticksBetween last now (Session.steps due.toNat s).session.timerFrequency with
    | error e => exact h.refl _
    | ok ticks => exact h.tickTimers _ ticks _ rfl

theorem runFor (h : Traced R) (s : Session κ) (seconds : κ) :
    R s (s.runForTrace seconds) (s.runFor seconds).session := by
  unfold runForTrace Session.runFor
  split
  · exact h.refl s
  · cases add s.clock seconds with
    | ok now => exact h.trans (h.clock s now) (h.catchUp _ s.clock now)
    | error e => exact h.refl s

theorem sync (h : Traced R) (s : Session κ) (now : κ) :
    R s (s.syncTrace now) (s.sync now).session := by
  unfold syncTrace Session.sync
  cases s.lastSync with
  | none => exact h.lastSync s _
  | some last =>
    dsimp only
    cases sub now last with
    | ok elapsed => exact h.trans (h.lastSync s _) (h.runFor _ _)
    | error e => exact h.lastSync s _

end Traced

/-! ## The machine -/

/-- **The trace is all that happens to the machine**, unless a cycle of it faults. -/
theorem traced_play : Traced (κ := κ) fun s events t =>
    (∀ u, .cycle u ∈ events → ∃ r, u.machine.tick = .ok r) →
      (s.machine.play (events.map Event.beat)).result = .ok t.machine where
  trans {s t u a b} hab hbc hcycles := by
    have ha := hab fun v hv => hcycles v (List.mem_append_left b hv)
    have hb := hbc fun v hv => hcycles v (List.mem_append_right a hv)
    rw [List.map_append, Machine.play_append ha, hb]
  step s hcycles := by
    obtain ⟨⟨machine, status⟩, htick⟩ := hcycles s List.mem_cons_self
    have h := stepped s
    generalize s.step.session = t at h ⊢
    cases h with
    | ticked h =>
      show (s.machine.play [.cycle]).result = _
      rw [Machine.play_cycle_of_ok h]
      rfl
    | stuck h => rw [h] at htick; cases htick
    | restarted h => rw [h] at htick; cases htick
  timers h _ := by rw [tickTimers_eq_ok h]; rfl
  debt _ _ _ := rfl
  clock _ _ _ := rfl
  lastSync _ _ _ := rfl

end Session

end Chip8
