import Chip8.Log.Level
import Chip8.Number.Basic

/-!
# The console log

**Lines** (`Console.line`). A time, a level, a tag and a message. The level is filled with
blanks to eight characters, and coloured on a terminal if colours are wanted.

**Filter** (`Console.enabled`). Messages below the threshold are not written. A level without a
known name counts as information.

**Time** (`Readings`). The clock is read when the console is opened and then once for every
line with a time, so the readings are a list consumed from the front; the last one stays.
-/

namespace Chip8

/-- What the clock will say, a value now and others later. -/
structure Readings where
  now : Double
  later : List Double
deriving DecidableEq

namespace Readings

/-- The readings of a list, the zero clock if it is empty. -/
def ofList : List Double → Readings
  | [] => ⟨.real 0, []⟩
  | t :: ts => ⟨t, ts⟩

/-- Goes on to the next reading, if there is one. -/
def advance (r : Readings) : Readings :=
  match r.later with
  | [] => r
  | t :: ts => ⟨t, ts⟩

end Readings

/-- How a console is opened. -/
structure ConsoleSettings where
  tag : String := "chipcore"
  level : String := "INFO"
  colours : Bool := true
  timestamps : Bool := true
deriving Repr

/-- An open console. -/
structure Console where
  tag : String
  threshold : Level
  coloured : Bool
  timestamps : Bool
  /-- The time of its opening. -/
  opened : Double
  clock : Readings
deriving DecidableEq

namespace Console

/-- Changes the threshold to a level by name. -/
def setLevel (c : Console) (name : String) : Except Fault Console :=
  match Level.ofName? (UpperCase.upper name) with
  | some level => .ok { c with threshold := level }
  | none => .error (.unknownLevel name)

/-- Opens a console on a stream that may be a terminal. -/
def openOn (settings : ConsoleSettings) (terminal : Bool) (clock : Readings) :
    Except Fault Console :=
  setLevel
    { tag := settings.tag
      threshold := .info
      coloured := settings.colours && terminal
      timestamps := settings.timestamps
      opened := clock.now
      clock := clock.advance } settings.level

def enabled (c : Console) (name : String) : Bool :=
  c.threshold.rank ≤ (Level.counting (UpperCase.upper name)).rank

/-- A text with blanks in front up to a length. -/
def padLeft (width : Nat) (s : String) : String :=
  String.ofList (List.replicate (width - s.length) ' ') ++ s

/-- A level's name between brackets, coloured if wanted. -/
def levelTag (c : Console) (name : String) : String :=
  let tag := "[" ++ padLeft 8 name ++ "]"
  if c.coloured then
    "\x1b[" ++ Numeral.decimal (Level.counting name).colour ++ "m" ++ tag ++ "\x1b[0m"
  else tag

/-- The time since the opening between brackets, and the console with the clock read. -/
def timeTag (c : Console) : Console × String :=
  if c.timestamps then
    ({ c with clock := c.clock.advance },
      "[" ++ (c.clock.now.sub c.opened).fixed 8 ++ "s]")
  else (c, "")

/-- A line of the log, without its end. -/
def line (c : Console) (name message : String) : Console × String :=
  let (d, time) := c.timeTag
  (d, time ++ c.levelTag name ++ "[" ++ c.tag ++ "] " ++ message)

/-- Writes a message; nothing below the threshold. -/
def log (c : Console) (name message : String) : Console × String :=
  let name := UpperCase.upper name
  if c.enabled name then
    let (c, text) := c.line name message
    (c, text ++ "\n")
  else (c, "")

def write (c : Console) (e : Entry) : Console × String := c.log e.level.name e.message

/-- Writes entries in order; the texts of those that are written. -/
def writeAll (c : Console) : List Entry → Console × List String
  | [] => (c, [])
  | e :: es =>
    let (d, text) := c.write e
    let (d, texts) := d.writeAll es
    (d, if c.enabled e.level.name then text :: texts else texts)

end Console

end Chip8
