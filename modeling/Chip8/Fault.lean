import Chip8.Text.Numeral
import Chip8.Text.Quoted

/-!
# Faults

What can go wrong, by cause, and the wording of each cause.

**The stack** (`StackFault`). The only fault an instruction can raise.

**Everything else** (`Fault`). Programs that do not fit, files that cannot be read, keys,
levels, colour schemes and frequencies that do not exist, and arithmetic without a result.
-/

namespace Chip8

/-- A push to a full stack or a pop from an empty one, with the stack pointer found. -/
inductive StackFault where
  | overflow (sp : UInt8)
  | underflow (sp : UInt8)
deriving Repr, DecidableEq

def StackFault.message : StackFault → String
  | overflow sp => "stack overflow: push with sp=0x" ++ Numeral.hex 2 sp.toNat
  | underflow sp => "stack underflow: pop with sp=0x" ++ Numeral.hex 2 sp.toNat

/-- Why a path cannot be read. -/
inductive ReadError where
  /-- Nothing is there. -/
  | missing
  /-- A directory is there. -/
  | directory
  /-- A part of the path that must be a directory is a file. -/
  | notDirectory
deriving Repr, DecidableEq

namespace ReadError

def number : ReadError → Nat
  | missing => 2
  | directory => 21
  | notDirectory => 20

def text : ReadError → String
  | missing => "No such file or directory"
  | directory => "Is a directory"
  | notDirectory => "Not a directory"

end ReadError

/-- A cause of failure. -/
inductive Fault where
  /-- The stack overflows or underflows. -/
  | stack (fault : StackFault)
  /-- A number does not fit the arithmetic it enters. -/
  | outOfRange
  /-- A value that is no number has no integer part. -/
  | notANumber
  /-- A quotient by the exact zero. -/
  | divisionByZero
  /-- A quotient by a zero of limited precision. -/
  | inexactDivisionByZero
  /-- A decimal numeral has too many digits to be written. -/
  | numeralTooLong
  /-- A program does not fit the memory above its start. -/
  | programTooLong (length : Nat)
  /-- A file cannot be read. -/
  | unreadable (path : String) (cause : ReadError)
  /-- A path holds the zero character. -/
  | zeroInPath
  /-- No key has this number. -/
  | noSuchKey (number : Int)
  /-- No register has this number. -/
  | noSuchRegister (number : Int)
  /-- An instruction lacks an operand or has one too many. -/
  | operands
  /-- The instruction frequency is out of range. -/
  | instructionFrequency (got : String)
  /-- The timer frequency is not positive. -/
  | timerFrequency (got : String)
  /-- No log level has this name. -/
  | unknownLevel (name : String)
  /-- No colour scheme has this name. -/
  | unknownScheme (name : String)
  /-- A screen has the wrong number of bytes. -/
  | screenSize (bytes : Nat)
deriving Repr, DecidableEq

def numeralTooLongText : String :=
  "Exceeds the limit (" ++ Numeral.decimal Numeral.longest
    ++ " digits) for integer string conversion; "
    ++ "use sys.set_int_max_str_digits() to increase the limit"

/-- The wording of a fault. One that quotes an integer with too many digits tells of that instead. -/
def Fault.message : Fault → String
  | stack f => f.message
  | outOfRange => "number out of range"
  | notANumber => "cannot convert float NaN to integer"
  | divisionByZero => "division by zero"
  | inexactDivisionByZero => "float division by zero"
  | numeralTooLong => numeralTooLongText
  | programTooLong n =>
    "Program is " ++ Numeral.decimal n ++ " bytes, at most 3584 fit above 0x200"
  | unreadable path cause =>
    "[Errno " ++ Numeral.decimal cause.number ++ "] " ++ cause.text ++ ": "
      ++ Quoted.quote path
  | zeroInPath => "embedded null byte"
  | noSuchKey n =>
    ((Numeral.decimal? n).map ("CHIP-8 keys are 0x0..0xF, got " ++ ·)).getD numeralTooLongText
  | noSuchRegister n =>
    ((Numeral.decimal? n).map (· ++ " is not a valid Register")).getD numeralTooLongText
  | operands => "wrong operands"
  | instructionFrequency got =>
    "instruction_frequency must be within 1..1000000 Hz, got " ++ got
  | timerFrequency got => "timer_frequency must be positive, got " ++ got
  | unknownLevel name =>
    "Unknown log level '" ++ name
      ++ "'. Available: ['DEBUG', 'INFO', 'WARNING', 'ERROR', 'CRITICAL']"
  | unknownScheme name =>
    "Unknown color scheme '" ++ name
      ++ "'. Available: ['amber', 'blue', 'classic', 'retro', 'white']"
  | screenSize n => "a screen has 256 bytes, got " ++ Numeral.decimal n

def decimalText (n : Int) : Except Fault String :=
  match Numeral.decimal? n with
  | some text => .ok text
  | none => .error .numeralTooLong

/-- The fault that quotes a text, or the fault of writing the text. -/
def Fault.quoting (text : Except Fault String) (fault : String → Fault) : Fault :=
  match text with
  | .ok text => fault text
  | .error e => e

end Chip8
