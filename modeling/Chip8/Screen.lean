import Chip8.Cells

/-!
# The screen

Thirty-two rows of sixty-four pixels, lit or not, eight to a byte.

**Packing.** A row is eight bytes from left to right, and a byte holds its leftmost pixel in its
highest bit.

**Drawing** (`drawRow`). Eight pixels are flipped where the bits of a byte are set. The byte is
split between two neighbouring columns of bytes, the second of which wraps to the left edge, so
each pixel of the row stays in its line. A collision is a lit pixel that goes out.

**Reading** (`pixel`). By column and line, any integers, under the index rule of byte cells.
-/

namespace Chip8

/-- A packed screen. -/
abbrev Screen := Cells 256

namespace Screen

def width : Nat := 64

def height : Nat := 32

def bytesPerRow : Nat := 8

def dark : Screen := Cells.zero 256

/-! ## Drawing -/

/-- The line a coordinate falls on. -/
def line (y : Int32) : Fin 32 := ⟨(y.toInt % 32).toNat, by omega⟩

/-- The column of bytes a coordinate falls on. -/
def byteColumn (x : Int32) : Fin 8 := ⟨(x.toInt % 64).toNat / 8, by omega⟩

/-- The distance of a coordinate from the left edge of its byte. -/
def bitOffset (x : Int32) : Fin 8 := ⟨(x.toInt % 64).toNat % 8, by omega⟩

def place (line : Fin 32) (column : Fin 8) : Fin 256 := ⟨line * 8 + column, by omega⟩

/-- Flips the pixels of a byte where `part` has a bit, and tells whether a lit one went out. -/
def flip (screen : Screen) (spot : Fin 256) (part : UInt8) : Screen × Bool :=
  (screen.set spot (screen[spot] ^^^ part), screen[spot] &&& part != 0)

/-- The part of an eight-pixel row that stays in its byte. -/
def stay (pixels : UInt8) (offset : Fin 8) : UInt8 :=
  lowByte (widen pixels >>> Int32.ofNat offset)

/-- The part of an eight-pixel row that spills into the next byte. -/
def spill (pixels : UInt8) (offset : Fin 8) : UInt8 :=
  lowByte (shiftOut (widen pixels) (8 - Int32.ofNat offset))

/-- Flips an eight-pixel row with its left end at `(x, y)`, and tells whether a lit pixel went
out. -/
def drawRow (screen : Screen) (pixels x y : Int32) : Screen × Bool :=
  let bits := lowByte pixels
  let column := byteColumn x
  let (screen, hit) := screen.flip (place (line y) column) (stay bits (bitOffset x))
  let (screen, spillHit) := screen.flip (place (line y) (column + 1)) (spill bits (bitOffset x))
  (screen, hit || spillHit)

/-! ## Reading -/

/-- The index of the byte with a pixel. -/
def byteIndex (x y : Int) : Int := 8 * y + x / 8

/-- The pixel at a column and a line is lit. -/
def pixel (screen : Screen) (x y : Int) : Bool :=
  screen.read (byteIndex x y) &&& (0x80 >>> UInt8.ofNat (x % 8).toNat) != 0

/-- The pixels of a byte from left to right. -/
def byteBits (b : UInt8) : List Bool :=
  [0x80, 0x40, 0x20, 0x10, 0x08, 0x04, 0x02, 0x01].map fun mask => b &&& mask != 0

/-- The pixels of a line from left to right. -/
def row (screen : Screen) (line : Fin 32) : List Bool :=
  (List.finRange 8).flatMap fun column => byteBits screen[place line column]

/-- The lines from top to bottom. -/
def rows (screen : Screen) : List (List Bool) := (List.finRange 32).map screen.row

/-- The columns from left to right, each from top to bottom. -/
def columns (screen : Screen) : List (List Bool) :=
  (List.finRange 64).map fun x => screen.rows.map fun line => line.getD x false

end Screen

end Chip8
