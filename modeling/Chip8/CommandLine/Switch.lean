import Chip8.Log.Level
import Chip8.Text.Quoted

/-!
# Switches

The switches of the command line, their spellings, and what may be wrong in their use.

**Spellings** (`Switch.table`). Every spelling with its switch, in the order of the help text. A
switch is called by all its spellings in messages.
-/

namespace Chip8.CommandLine

/-- A switch. -/
inductive Switch where
  | help
  | cycles
  | frequency
  | seed
  | logLevel
  | noProgress
  | disassemble
deriving Repr, DecidableEq

namespace Switch

def spellings : Switch → List String
  | help => ["-h", "--help"]
  | cycles => ["--cycles"]
  | frequency => ["--frequency"]
  | seed => ["--seed"]
  | logLevel => ["--log-level"]
  | noProgress => ["--no-progress"]
  | disassemble => ["--disassemble"]

def all : List Switch := [help, cycles, frequency, seed, logLevel, noProgress, disassemble]

/-- All spellings in order, each with its switch. -/
def table : List (String × Switch) :=
  all.flatMap fun s => s.spellings.map fun spelling => (spelling, s)

/-- How messages call a switch. -/
def title (s : Switch) : String := "/".intercalate s.spellings

def takesValue : Switch → Bool
  | help | noProgress => false
  | _ => true

end Switch

/-- What is wrong with a command line. -/
inductive UsageError where
  /-- No path is given. -/
  | missingRom
  /-- Arguments without a meaning. -/
  | unrecognized (arguments : List String)
  /-- A switch lacks its value. -/
  | expectedValue (switch : Switch)
  /-- A value is no integer. -/
  | invalidInteger (switch : Switch) (value : String)
  /-- A value, in upper case, is no log level. -/
  | invalidLevel (value : String)
  /-- A switch without a value has one attached. -/
  | ignoredValue (switch : Switch) (value : String)
  /-- A spelling is cut short to the start of several. -/
  | ambiguous (argument : String) (spellings : List String)
deriving Repr, DecidableEq

namespace UsageError

/-- A message about a switch. -/
def about (s : Switch) (text : String) : String := "argument " ++ s.title ++ ": " ++ text

def message : UsageError → String
  | missingRom => "the following arguments are required: rom"
  | unrecognized arguments => "unrecognized arguments: " ++ " ".intercalate arguments
  | expectedValue s => about s "expected one argument"
  | invalidInteger s value => about s ("invalid int value: " ++ Quoted.quote value)
  | invalidLevel value =>
    about .logLevel ("invalid choice: " ++ Quoted.quote value ++ " (choose from "
      ++ ", ".intercalate (Level.all.map fun l => Quoted.quote l.name) ++ ")")
  | ignoredValue s value => about s ("ignored explicit argument " ++ Quoted.quote value)
  | ambiguous argument spellings =>
    "ambiguous option: " ++ argument ++ " could match " ++ ", ".intercalate spellings

end UsageError

end Chip8.CommandLine
