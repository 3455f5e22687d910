/-!
# The font

Sixteen built-in sprites, one for each hexadecimal digit, five rows of eight pixels each.
-/

namespace Chip8.Font

def start : Nat := 0

def glyphHeight : Nat := 5

/-- The rows of all sprites, digit by digit. -/
def glyphs : List UInt8 :=
  [
    0xF0, 0x90, 0x90, 0x90, 0xF0, 0x20, 0x60, 0x20, 0x20, 0x70,
    0xF0, 0x10, 0xF0, 0x80, 0xF0, 0xF0, 0x10, 0xF0, 0x10, 0xF0,
    0x90, 0x90, 0xF0, 0x10, 0x10, 0xF0, 0x80, 0xF0, 0x10, 0xF0,
    0xF0, 0x80, 0xF0, 0x90, 0xF0, 0xF0, 0x10, 0x20, 0x40, 0x40,
    0xF0, 0x90, 0xF0, 0x90, 0xF0, 0xF0, 0x90, 0xF0, 0x10, 0xF0,
    0xF0, 0x90, 0xF0, 0x90, 0x90, 0xE0, 0x90, 0xE0, 0x90, 0xE0,
    0xF0, 0x80, 0x80, 0x80, 0xF0, 0xE0, 0x90, 0x90, 0x90, 0xE0,
    0xF0, 0x80, 0xF0, 0x80, 0xF0, 0xF0, 0x80, 0xF0, 0x80, 0x80
  ]

def finish : Nat := start + glyphs.length

/-- The address of the sprite of a digit, any integer counting as one. -/
def address (digit : Int) : Int := start + digit * glyphHeight

example : finish = 80 := rfl

end Chip8.Font
