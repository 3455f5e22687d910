import Chip8.Text.Numeral

/-!
# Progress

A count of finished cycles beside their expected number. A disabled count stays where it is.
-/

namespace Chip8

/-- The progress of a run. -/
structure Progress where
  total : Int
  description : String
  disabled : Bool
  count : Int
deriving Repr, DecidableEq

namespace Progress

def unit : String := "cycle"

/-- The description of a run without one of its own. -/
def runningText (total : Int) : String := "Running (" ++ Numeral.grouped total ++ " cycles)"

/-- The progress at the start; an empty description counts as none. -/
def start (total : Int) (description : String) (disabled : Bool) (initial : Int) : Progress where
  total := total
  description := if description = "" then runningText total else description
  disabled := disabled
  count := if disabled then 0 else initial

def update (p : Progress) (n : Int) : Progress :=
  if p.disabled then p else { p with count := p.count + n }

end Progress

end Chip8
