import Chip8.CommandLine.Parse
import Chip8.Machine.Dump
import Chip8.Progress
import Chip8.Screen.Text
import Chip8.Session.Pacing

/-!
# Headless runs

A program is loaded and either listed or run for a number of cycles, after which the screen and
the registers are shown.

**Status** (`Report.status`). Two if the run cannot start, one if a fault reset the machine on
the way, zero otherwise.

**Faults.** A number out of range ends everything; all other faults of the start are reported.
-/

namespace Chip8

/-- What a headless run shows: its exit status, its lines of output and its log. -/
structure Report where
  status : Nat
  output : List String
  log : List Entry
deriving Repr, DecidableEq

namespace Headless

def settings (o : CommandLine.Options) : SessionSettings Number where
  romPath := some o.rom
  instructionFrequency := .integer o.frequency
  timerFrequency := .integer Session.standardTimerFrequency
  seed := o.seed

def cannotStart (fault : Fault) : Report :=
  ⟨2, [], [⟨.error, "Cannot start: " ++ fault.message⟩]⟩

def listingLine (r : ListingRow) : Except Fault String :=
  r.instruction.text.map fun text =>
    Numeral.hex 3 r.address ++ ": " ++ Numeral.hex 4 r.word.toNat ++ "  " ++ text

def listing (s : Session Number) (count : Int) : Except Fault Report := do
  let rows ← s.machine.disassemble programStart count
  let lines ← rows.mapM listingLine
  return ⟨0, lines, s.log.reverse⟩

/-- The entry for the end of a run. -/
def executedText (s : Session Number) : String :=
  "Executed " ++ Numeral.decimal s.instructions ++ " instructions (" ++ s.status.name ++ ")"

/-- The entry for a failure on the way. -/
def failedText (f : Failure) : String :=
  "Run was reset after a failure at instruction " ++ Numeral.decimal f.instructions ++ ": "
    ++ f.message

/-- The lines that show a machine. -/
def view (m : Machine) : List String := m.screen.textLines ⟨"█", " "⟩ ++ [m.dump]

/-- The report of a run that came to its end. -/
def finished (s : Session Number) : Report :=
  let s := s.logged .info (executedText s)
  match s.failure with
  | none => ⟨0, view s.machine, s.log.reverse⟩
  | some f => ⟨1, view s.machine, (s.logged .warning (failedText f)).log.reverse⟩

/-- The report of a run. Its progress is shown while it goes on, and not reported. -/
def running (s : Session Number) (o : CommandLine.Options) : Except Fault Report :=
  let progress := Progress.start o.cycles "" o.noProgress 0
  let run := (s.runWith (fun p _ => p.update 1) o.cycles progress).1
  run.result.map fun _ => finished run.session

/-- Lists or runs a program. -/
def report (read : FileReader) (o : CommandLine.Options) : Except Fault Report :=
  match Session.create read (settings o) with
  | .error .outOfRange => .error .outOfRange
  | .error fault => .ok (cannotStart fault)
  | .ok s => if o.disassemble ≠ 0 then listing s o.disassemble else running s o

end Headless

end Chip8
