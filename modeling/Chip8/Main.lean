import Chip8.CommandLine.Help
import Chip8.Headless
import Chip8.Log.Console

/-!
# The program

The command line around headless runs: files are read from disk, output goes to standard
output, and the log goes to the standard error stream.
-/

namespace Chip8.Main

/-- The bytes of a file on disk, or why there are none. -/
def readProgram (path : String) : IO (Except Fault Program) := do
  try
    return .ok (← IO.FS.readBinFile path).toList
  catch
    | .inappropriateType _ 21 _ => return .error (.unreadable path .directory)
    | .inappropriateType _ _ _ => return .error (.unreadable path .notDirectory)
    | _ => return .error (.unreadable path .missing)

/-- The milliseconds of a clock as seconds. -/
def seconds (milliseconds : Nat) : Double := Double.round (milliseconds / 1000 : Rat)

/-- Shows a report; the log counts its time from the start. -/
def showReport (o : CommandLine.Options) (r : Report) (elapsed : Double) : IO UInt32 := do
  for line in r.output do
    IO.println line
  match Console.openOn { level := o.logLevel.name } false ⟨.real 0, [elapsed]⟩ with
  | .error e => IO.eprintln e.message
  | .ok console =>
    for text in (console.writeAll r.log).2 do
      IO.eprint text
  return UInt32.ofNat r.status

def run (arguments : List String) : IO UInt32 := do
  match CommandLine.parse arguments with
  | .error .help =>
    for line in CommandLine.helpLines do
      IO.println line
    return 0
  | .error (.usage e) =>
    for line in CommandLine.usageLines do
      IO.eprintln line
    IO.eprintln (CommandLine.programName ++ ": error: " ++ e.message)
    return 2
  | .ok options =>
    let start ← IO.monoMsNow
    let program ← readProgram options.rom
    match Headless.report (fun _ => program) options with
    | .error e =>
      IO.eprintln e.message
      return 1
    | .ok r => showReport options r (seconds ((← IO.monoMsNow) - start))

end Chip8.Main

/-- The entry point. -/
def main (arguments : List String) : IO UInt32 := Chip8.Main.run arguments
