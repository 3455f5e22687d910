import Chip8.Session.Basic

/-!
# The keypad

Sixteen keys, each a bit of the machine's mask. A key may be pressed, released or toggled; a
number that is no key's changes nothing.
-/

namespace Chip8.Session

variable {κ : Type}

def keyBit (key : Int) : Except Fault UInt16 :=
  if 0 ≤ key ∧ key < 16 then .ok (1 <<< UInt16.ofInt key) else .error (.noSuchKey key)

def setKeys (s : Session κ) (keys : UInt16) : Session κ :=
  { s with machine := { s.machine with keys } }

def pressKey (s : Session κ) (key : Int) : Except Fault (Session κ) :=
  (keyBit key).map fun bit => s.setKeys (s.machine.keys ||| bit)

def releaseKey (s : Session κ) (key : Int) : Except Fault (Session κ) :=
  (keyBit key).map fun bit => s.setKeys (s.machine.keys &&& ~~~bit)

/-- Presses a released key and releases a pressed one. -/
def toggleKey (s : Session κ) (key : Int) : Except Fault (Session κ) :=
  (keyBit key).map fun bit => s.setKeys (s.machine.keys ^^^ bit)

end Chip8.Session
