import Chip8.Log.Level
import Chip8.Machine.Program
import Chip8.Number.Basic

/-!
# Sessions

A session owns a machine and what is needed to run it: the program to reload, the pacing of
instructions and timers, and the record of the last failure.

**Outcomes** (`Outcome`). An operation leaves a session and either a result or a fault. What was
done before a fault stays done.

**Loading** (`loadProgram`, `loadRom`). A program that fits becomes the one that every reset
loads again; one that does not leaves the session as it was.

**Reset** (`reset`). The machine as after power on, its random stream continued, with the
program loaded; counters, debt and the last failure are cleared.

**Stepping** (`step`). One cycle. A stack fault ends the run only: it is logged, the session is
reset, and the fault is recorded together with the number of instructions completed before it.

**The log.** Every entry is kept, the newest first; writing them out is left to a console.
-/

namespace Chip8

/-- A fault of a run, and how far the run had got. -/
structure Failure where
  message : String
  instructions : Nat
deriving Repr, DecidableEq

/-- A machine with all that runs it, paced by numbers `κ`. -/
structure Session (κ : Type) where
  machine : Machine
  status : Status
  /-- The instructions completed since the last reset. -/
  instructions : Nat
  paused : Bool
  failure : Option Failure
  romPath : Option String
  /-- The program that a reset loads. -/
  program : Program
  /-- The part of a timer tick that is due already. -/
  debt : κ
  /-- The running time so far. -/
  clock : κ
  /-- The reading of the outer clock at the last synchronisation. -/
  lastSync : Option κ
  instructionFrequency : κ
  timerFrequency : κ
  /-- The entries logged, the newest first. -/
  log : List Entry
deriving DecidableEq

/-- What an operation leaves: a session, and a result or a fault. -/
structure Outcome (κ α : Type) where
  session : Session κ
  result : Except Fault α

namespace Outcome

variable {κ α β : Type}

def done (s : Session κ) (a : α) : Outcome κ α := ⟨s, .ok a⟩

/-- Goes on with the session and the result; a fault ends the operation. -/
@[inline]
def next (o : Outcome κ α) (f : Session κ → α → Outcome κ β) : Outcome κ β :=
  match o.result with
  | .ok a => f o.session a
  | .error e => ⟨o.session, .error e⟩

/-- The same with another result, if there is one. -/
def answering (o : Outcome κ α) (b : β) : Outcome κ β := o.next fun s _ => .done s b

theorem answering_answering {γ : Type} (o : Outcome κ α) (b : β) (c : γ) :
    (o.answering b).answering c = o.answering c := by
  rcases o with ⟨s, _ | _⟩ <;> rfl

end Outcome

/-- How a session is set up. -/
structure SessionSettings (κ : Type) where
  romPath : Option String
  instructionFrequency : κ
  timerFrequency : κ
  seed : Int

namespace Session

open ClockArithmetic

variable {κ : Type} [ClockArithmetic κ]

/-- The instructions a second unless another number is asked for. -/
def standardInstructionFrequency : Int := 700

/-- The timer ticks a second unless another number is asked for. -/
def standardTimerFrequency : Int := 60

def leastFrequency : Int := 1

def greatestFrequency : Int := 1000000

def logged (s : Session κ) (level : Level) (message : String) : Session κ :=
  { s with log := ⟨level, message⟩ :: s.log }

/-! ## Loading -/

/-- Loads a program, to be loaded again by every reset. -/
def loadProgram (s : Session κ) (program : Program) : Except Fault (Session κ) :=
  (s.machine.loadProgram program).map fun machine => { s with machine, program }

/-- The entry for a loaded file. -/
def loadedText (path : String) (length : Nat) : String :=
  "Loaded " ++ path ++ " (" ++ Numeral.decimal length ++ " bytes)"

/-- Loads a program from a file. -/
def loadRom (read : FileReader) (s : Session κ) (path : String) : Except Fault (Session κ) :=
  match read path with
  | .error e => .error e
  | .ok program =>
    (s.loadProgram program).map fun s =>
      { s with romPath := some path }.logged .info (loadedText path program.length)

/-- A session that starts again on a machine. -/
def restarted (s : Session κ) (machine : Machine) : Session κ :=
  { s with machine, status := .running, instructions := 0, failure := none, debt := zero }

/-- Back to power on with the program loaded again. -/
def reset (s : Session κ) : Except Fault (Session κ) :=
  (s.machine.reset.loadProgram s.program).map fun machine =>
    (s.restarted machine).logged .debug "Machine reset"

/-! ## Setting up -/

/-- A session before anything is loaded. -/
def fresh (settings : SessionSettings κ) : Session κ where
  machine := Machine.powerOn (RandomKey.ofSeed settings.seed)
  status := .running
  instructions := 0
  paused := false
  failure := none
  romPath := none
  program := []
  debt := zero
  clock := zero
  lastSync := none
  instructionFrequency := settings.instructionFrequency
  timerFrequency := settings.timerFrequency
  log := []

/-- The instruction frequency is one a session may start with. -/
def frequencyAllowed (f : κ) : Bool :=
  le (ofInt leastFrequency) f && le f (ofInt greatestFrequency)

/-- Sets up a session: frequencies, seed and file are looked at in this order. -/
def create (read : FileReader) (settings : SessionSettings κ) : Except Fault (Session κ) :=
  if !frequencyAllowed settings.instructionFrequency then
    .error (.quoting (text settings.instructionFrequency) .instructionFrequency)
  else if le settings.timerFrequency (ofInt 0) then
    .error (.quoting (text settings.timerFrequency) .timerFrequency)
  else if !RandomKey.seedFits settings.seed then .error .outOfRange
  else
    match settings.romPath with
    | none => .ok (fresh settings)
    | some path => (fresh settings).loadRom read path

/-! ## Stepping -/

def failureOf (s : Session κ) (fault : StackFault) : Failure :=
  ⟨"StackFault: " ++ fault.message, s.instructions⟩

def crashText (failure : Failure) : String :=
  "Emulator crashed after " ++ Numeral.decimal failure.instructions ++ " instructions: "
    ++ failure.message

/-- Logs a fault, resets, and records the fault. -/
def recover (s : Session κ) (fault : StackFault) : Outcome κ Status :=
  let failure := s.failureOf fault
  let s := s.logged .error (crashText failure)
  match s.reset with
  | .error e => ⟨s, .error e⟩
  | .ok s => .done { s with failure := some failure } s.status

/-- Counts an instruction if it was completed. -/
def counted (s : Session κ) : Session κ :=
  match s.status with
  | .running => { s with instructions := s.instructions + 1 }
  | .waiting => s

/-- One cycle. -/
def step (s : Session κ) : Outcome κ Status :=
  match s.machine.tick with
  | .error fault => s.recover fault
  | .ok (machine, status) => .done { s with machine, status }.counted status

end Session

end Chip8
