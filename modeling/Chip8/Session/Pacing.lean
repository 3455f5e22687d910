import Chip8.Session.Basic

/-!
# Pacing

**Ticks between two times** (`ticksBetween`). The period boundaries of a frequency that lie
between two times: the difference of two floors, and nothing if the time goes back.

**By cycles** (`runWith`). Every cycle adds the quotient of the two frequencies to a debt of timer
ticks, and the whole ticks in it are paid at once. An observer is told of each cycle that comes to
its end: a progress, or the account of the work done (`run`).

**By time** (`runFor`, `sync`). Instructions and timer ticks are counted from the boundaries
crossed on the session's own clock, which stands still while the session is paused.

**What was done** (`Work`). Both report the cycles run and the ticks given to the timers.

**Frequency** (`increaseFrequency`, `decreaseFrequency`). Doubling and halving within limits.
-/

namespace Chip8

/-- The period boundaries of a frequency between two times. -/
def ticksBetween {κ : Type} [ClockArithmetic κ] (last now frequency : κ) : Except Fault Int := do
  let finish ← ClockArithmetic.floor (← ClockArithmetic.mul now frequency)
  let start ← ClockArithmetic.floor (← ClockArithmetic.mul last frequency)
  return max 0 (finish - start)

namespace Session

open ClockArithmetic

variable {κ σ : Type} [ClockArithmetic κ]

/-! ## Timers -/

def tickTimers (s : Session κ) (ticks : Int) : Except Fault (Session κ) :=
  if ticks = 0 then .ok s
  else (narrow ticks).map fun n => { s with machine := s.machine.tickTimers n }

/-- Goes on with a changed session, or ends with a fault and the session as it was. -/
def attempt (s : Session κ) (r : Except Fault (Session κ)) : Outcome κ Unit :=
  match r with
  | .ok s => .done s ()
  | .error e => ⟨s, .error e⟩

/-! ## By cycles -/

/-- The debt after a cycle. -/
def addDebt (s : Session κ) (perCycle : κ) : Except Fault (Session κ) :=
  (add s.debt perCycle).map fun debt => { s with debt }

/-- Takes whole ticks from the debt. -/
def payDebt (s : Session κ) (due : Int) : Except Fault (Session κ) :=
  (sub s.debt (ofInt due)).map fun debt => { s with debt }

/-- Gives the timers the whole ticks of the debt; the number of them. -/
def settle (s : Session κ) : Outcome κ Int :=
  match trunc s.debt with
  | .error e => ⟨s, .error e⟩
  | .ok due =>
    if due = 0 then .done s 0
    else
      (s.attempt (s.payDebt due)).next fun s _ =>
        (s.attempt (s.tickTimers due)).next fun s _ => .done s due

/-- One cycle and the timer ticks due after it; the number of ticks. -/
def cycle (s : Session κ) (perCycle : κ) : Outcome κ Int :=
  s.step.next fun s _ =>
    (s.attempt (s.addDebt perCycle)).next fun s _ => s.settle

/-- What was done: cycles run and ticks given to the timers. -/
structure Work where
  cycles : Nat
  ticks : Int
deriving Repr, DecidableEq

/-- One more cycle, with its ticks. -/
def Work.add (w : Work) (ticks : Int) : Work := ⟨w.cycles + 1, w.ticks + ticks⟩

/-- Some cycles. After each the observer is told the ticks it gave; what it has been told stays with
it if a later cycle fails. -/
def cyclesWith (tell : σ → Int → σ) (perCycle : κ) : Nat → Session κ → σ → Outcome κ Unit × σ
  | 0, s, p => (.done s (), p)
  | n + 1, s, p =>
    match s.cycle perCycle with
    | ⟨s, .ok ticks⟩ => cyclesWith tell perCycle n s (tell p ticks)
    | ⟨s, .error e⟩ => (⟨s, .error e⟩, p)

/-- Runs some cycles, none while paused and none if their number is negative. Answers with the
number asked for, or zero while paused. -/
def runWith (tell : σ → Int → σ) (s : Session κ) (n : Int) (p : σ) : Outcome κ Int × σ :=
  if s.paused then (.done s 0, p)
  else
    match div s.timerFrequency s.instructionFrequency with
    | .error e => (⟨s, .error e⟩, p)
    | .ok perCycle =>
      let r := cyclesWith tell perCycle n.toNat s p
      (r.1.answering n, r.2)

/-- Some cycles after the work done before. -/
def cycles (perCycle : κ) (n : Nat) (s : Session κ) (w : Work) : Outcome κ Work :=
  let r := cyclesWith Work.add perCycle n s w
  r.1.answering r.2

/-- Runs some cycles and answers with the work done. -/
def run (s : Session κ) (n : Int) : Outcome κ Work :=
  let r := s.runWith Work.add n ⟨0, 0⟩
  r.1.answering r.2

theorem cycles_succ (perCycle : κ) (n : Nat) (s : Session κ) (w : Work) :
    cycles perCycle (n + 1) s w =
      (s.cycle perCycle).next fun s ticks => cycles perCycle n s (w.add ticks) := by
  rw [cycles, cyclesWith]
  rcases s.cycle perCycle with ⟨t, _ | ticks⟩ <;> rfl

theorem run_eq (s : Session κ) (n : Int) : s.run n =
    if s.paused then .done s ⟨0, 0⟩
    else
      match div s.timerFrequency s.instructionFrequency with
      | .error e => ⟨s, .error e⟩
      | .ok perCycle => cycles perCycle n.toNat s ⟨0, 0⟩ := by
  unfold run runWith cycles
  split
  · rfl
  · cases div s.timerFrequency s.instructionFrequency with
    | error e => rfl
    | ok perCycle => exact Outcome.answering_answering _ _ _

/-- Being observed changes nothing of the cycles. -/
theorem cyclesWith_fst {τ : Type} (tell : σ → Int → σ) (tell' : τ → Int → τ) (perCycle : κ) (n : Nat)
    (s : Session κ) (p : σ) (q : τ) :
    (cyclesWith tell perCycle n s p).1 = (cyclesWith tell' perCycle n s q).1 := by
  induction n generalizing s p q with
  | zero => rfl
  | succ n ih =>
    rw [cyclesWith, cyclesWith]
    rcases s.cycle perCycle with ⟨t, _ | ticks⟩
    · rfl
    · exact ih t _ _

/-- Nor of a run. -/
theorem runWith_fst (tell : σ → Int → σ) (s : Session κ) (n : Int) (p : σ) :
    (s.runWith tell n p).1 = (s.run n).answering (if s.paused then 0 else n) := by
  rw [run, Outcome.answering_answering]
  unfold runWith
  split
  · rfl
  · cases div s.timerFrequency s.instructionFrequency with
    | error e => rfl
    | ok perCycle =>
      dsimp only
      rw [Outcome.answering_answering, cyclesWith_fst tell Work.add]

/-! ## By time -/

/-- Some cycles without timers. -/
def steps : Nat → Session κ → Outcome κ Unit
  | 0, s => .done s ()
  | n + 1, s => s.step.next fun s _ => steps n s

/-- The cycles and then the timer ticks between two times of the clock. -/
def catchUp (s : Session κ) (last now : κ) : Outcome κ Work :=
  match ticksBetween last now s.instructionFrequency with
  | .error e => ⟨s, .error e⟩
  | .ok due =>
    (steps due.toNat s).next fun s _ =>
      match ticksBetween last now s.timerFrequency with
      | .error e => ⟨s, .error e⟩
      | .ok ticks =>
        (s.attempt (s.tickTimers ticks)).next fun s _ => .done s ⟨due.toNat, ticks⟩

/-- Runs for some seconds, not at all while paused. -/
def runFor (s : Session κ) (seconds : κ) : Outcome κ Work :=
  if s.paused then .done s ⟨0, 0⟩
  else
    match add s.clock seconds with
    | .error e => ⟨s, .error e⟩
    | .ok now => { s with clock := now }.catchUp s.clock now

/-- Catches up with an outer clock; the first time only starts it. -/
def sync (s : Session κ) (now : κ) : Outcome κ Work :=
  let started := { s with lastSync := some now }
  match s.lastSync with
  | none => .done started ⟨0, 0⟩
  | some last =>
    match sub now last with
    | .error e => ⟨started, .error e⟩
    | .ok elapsed => started.runFor (larger zero elapsed)

/-! ## Frequency -/

def frequencyText (f : String) : String := "Instruction frequency set to " ++ f ++ " Hz"

/-- Changes the instruction frequency, and logs its text, if it has one. An equal frequency is no
change. -/
def setFrequency (s : Session κ) (f : κ) : Outcome κ Unit :=
  if beq f s.instructionFrequency then .done s ()
  else
    let s := { s with instructionFrequency := f }
    s.attempt ((text f).map fun t => s.logged .info (frequencyText t))

/-- Doubles the instruction frequency, up to the greatest. -/
def increaseFrequency (s : Session κ) : Outcome κ Unit :=
  match mul s.instructionFrequency (ofInt 2) with
  | .error e => ⟨s, .error e⟩
  | .ok doubled => s.setFrequency (smaller (ofInt greatestFrequency) doubled)

/-- Halves the instruction frequency, down to the least. -/
def decreaseFrequency (s : Session κ) : Outcome κ Unit :=
  s.setFrequency (larger (ofInt leastFrequency) (floorHalf s.instructionFrequency))

def togglePause (s : Session κ) : Session κ :=
  { s with paused := !s.paused }.logged .info (if s.paused then "Resumed" else "Paused")

end Session

end Chip8
