import Chip8.Screen

/-!
# The screen as text

One line of text for each line of pixels, a lit pixel and a dark one each written as a text of
their own.
-/

namespace Chip8.Screen

/-- The texts of a lit and of a dark pixel. -/
structure Glyphs where
  lit : String := "█"
  dark : String := " "

def Glyphs.line (g : Glyphs) (pixels : List Bool) : String :=
  String.join (pixels.map fun lit => if lit then g.lit else g.dark)

/-- The screen as lines of text. -/
def textLines (screen : Screen) (g : Glyphs) : List String := screen.rows.map g.line

end Chip8.Screen
