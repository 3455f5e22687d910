import Chip8.Text.Numeral
import Chip8.Text.Printable

/-!
# Quoted text

A text between quotes, every character of which can be seen.

**The quotes.** Single ones, unless the text holds a single quote and no double one.

**Escapes** (`escape`). The backslash and the quote in use get a backslash; line feed, carriage
return and tab have names; any other character without a shape is written by its code, in two,
four or eight lower-case hexadecimal digits.
-/

namespace Chip8.Quoted

/-- A code in lower-case hexadecimal digits of a least number. -/
def code (width n : Nat) : List Char :=
  (Numeral.hex width n).toList.map Char.toLower

/-- How a character is written between quotes of a kind. -/
def escape (mark c : Char) : List Char :=
  if c = '\\' ∨ c = mark then ['\\', c]
  else if c = '\n' then ['\\', 'n']
  else if c = '\r' then ['\\', 'r']
  else if c = '\t' then ['\\', 't']
  else if Printable.printable c then [c]
  else if c.toNat < 0x100 then '\\' :: 'x' :: code 2 c.toNat
  else if c.toNat < 0x10000 then '\\' :: 'u' :: code 4 c.toNat
  else '\\' :: 'U' :: code 8 c.toNat

/-- The quote for a text. -/
def markFor (cs : List Char) : Char :=
  if '\'' ∈ cs ∧ '"' ∉ cs then '"' else '\''

/-- A text between quotes. -/
def quote (s : String) : String :=
  let mark := markFor s.toList
  String.ofList (mark :: s.toList.flatMap (escape mark) ++ [mark])

end Chip8.Quoted
