import Chip8.Text.UpperCase

/-!
# Log levels

Five levels in order of urgency. A level may be named in any case.
-/

namespace Chip8

/-- The urgency of a message. -/
inductive Level where
  | debug
  | info
  | warning
  | error
  | critical
deriving Repr, DecidableEq

namespace Level

/-- All levels, the least urgent first. -/
def all : List Level := [debug, info, warning, error, critical]

def name : Level → String
  | debug => "DEBUG"
  | info => "INFO"
  | warning => "WARNING"
  | error => "ERROR"
  | critical => "CRITICAL"

/-- The place of a level in the order. -/
def rank : Level → Nat
  | debug => 0
  | info => 1
  | warning => 2
  | error => 3
  | critical => 4

/-- The number of the terminal colour of a level. -/
def colour : Level → Nat
  | debug => 36
  | info => 32
  | warning => 33
  | error => 31
  | critical => 35

/-- The level of an upper-case name. -/
def ofName? (name : String) : Option Level := all.find? (·.name = name)

/-- The level a name counts as; an unknown one counts as information. -/
def counting (name : String) : Level := (ofName? name).getD info

end Level

/-- A message with its level. -/
structure Entry where
  level : Level
  message : String
deriving Repr, DecidableEq

end Chip8
