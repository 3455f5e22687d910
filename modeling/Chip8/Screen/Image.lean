import Chip8.Fault
import Chip8.Screen

/-!
# The screen as an image

**Colours** (`Colour`). Three components of a byte each; components given as integers must fit.

**Schemes** (`Scheme`). Named pairs of a colour for lit pixels and one for dark pixels.

**Scaling** (`image`). Every pixel becomes a square block; a scale below one counts as one.
-/

namespace Chip8

/-- A colour. -/
structure Colour where
  red : UInt8
  green : UInt8
  blue : UInt8
deriving Repr, DecidableEq

namespace Colour

def component (n : Int) : Except Fault UInt8 :=
  if 0 ≤ n ∧ n ≤ 255 then .ok (UInt8.ofInt n) else .error .outOfRange

def ofInts (red green blue : Int) : Except Fault Colour := do
  return ⟨← component red, ← component green, ← component blue⟩

end Colour

/-- A colour for lit pixels and one for dark pixels. -/
structure Scheme where
  lit : Colour
  dark : Colour
deriving Repr, DecidableEq

namespace Scheme

/-- The schemes by name. -/
def all : List (String × Scheme) :=
  [("classic", ⟨⟨0, 255, 0⟩, ⟨0, 0, 0⟩⟩),
    ("amber", ⟨⟨255, 176, 0⟩, ⟨0, 0, 0⟩⟩),
    ("white", ⟨⟨255, 255, 255⟩, ⟨0, 0, 0⟩⟩),
    ("blue", ⟨⟨0, 255, 255⟩, ⟨0, 0, 64⟩⟩),
    ("retro", ⟨⟨255, 255, 0⟩, ⟨64, 0, 64⟩⟩)]

/-- The scheme used unless another is asked for. -/
def classic : Scheme := ⟨⟨0, 255, 0⟩, ⟨0, 0, 0⟩⟩

def named (name : String) : Except Fault Scheme :=
  match all.lookup name with
  | some s => .ok s
  | none => .error (.unknownScheme name)

def paint (s : Scheme) (lit : Bool) : Colour := if lit then s.lit else s.dark

end Scheme

/-- An image, row by row from the top. -/
abbrev Image := List (List Colour)

/-- Every element some times in a row. -/
def repeatEach {α : Type} (times : Nat) (xs : List α) : List α :=
  xs.flatMap (List.replicate times)

namespace Screen

/-- The screen of 256 bytes. -/
def ofBytes (bytes : List UInt8) : Except Fault Screen :=
  if bytes.length = 256 then .ok (dark.overwrite 0 bytes) else .error (.screenSize bytes.length)

/-- The side of the block of a pixel. -/
def blockSide (scale : Int) : Nat := (max scale 1).toNat

def image (screen : Screen) (scale : Int) (scheme : Scheme) : Image :=
  let side := blockSide scale
  repeatEach side (screen.rows.map fun row => repeatEach side (row.map scheme.paint))

end Screen

end Chip8
