import Chip8.CommandLine.Switch
import Chip8.Text.CharacterClass

/-!
# Tokens of the command line

Every argument is one of four things before anything is done with it.

**Values.** Arguments that do not start with a dash, the dash alone, negative numbers, anything
unknown with a space in it, and all that follows the separator `--`.

**Switches** (`Token.switch`). An exact spelling; a spelling and a value joined by an equals
sign; the start of exactly one long spelling; a short spelling with text attached.

**Unknown** switches are all that is left.
-/

namespace Chip8.CommandLine

/-- Text attached to a switch, after an equals sign or directly. -/
structure Attached where
  equals : Bool
  text : List Char
deriving Repr, DecidableEq

/-- What an argument is. -/
inductive Token where
  | value
  | separator
  | switch (switch : Switch) (attached : Option Attached)
  | unknown
deriving Repr, DecidableEq

/-- A spelling with its switch and what is attached. -/
structure Candidate where
  spelling : String
  switch : Switch
  attached : Option Attached
deriving Repr, DecidableEq

/-- The text before the first equals sign and the text after it. -/
def splitEquals (cs : List Char) : List Char × Option (List Char) :=
  let before := cs.takeWhile (· ≠ '=')
  match cs.drop before.length with
  | [] => (before, none)
  | _ :: after => (before, some after)

/-- The switch of an exact spelling. -/
def spelled? (cs : List Char) : Option Switch := Switch.table.lookup (String.ofList cs)

/-- The spellings that start with a text. -/
def completions (start : List Char) : List (String × Switch) :=
  Switch.table.filter fun (spelling, _) => start.isPrefixOf spelling.toList

/-- The switches that an inexact spelling may stand for. -/
def candidates (cs : List Char) : List Candidate :=
  match cs with
  | '-' :: '-' :: _ =>
    let (start, after) := splitEquals cs
    (completions start).map fun (spelling, s) => ⟨spelling, s, after.map (⟨true, ·⟩)⟩
  | _ =>
    Switch.table.filterMap fun (spelling, s) =>
      if spelling.toList = cs.take 2 then some ⟨spelling, s, some ⟨false, cs.drop 2⟩⟩
      else if cs.isPrefixOf spelling.toList then some ⟨spelling, s, none⟩
      else none

/-- The character is a decimal digit of some script. -/
def isDigit (c : Char) : Bool := (CharacterClass.digitValue? c).isSome

/-- The text, but for a line feed at its end. -/
def dropLineFeed (cs : List Char) : List Char :=
  if cs.getLast? = some '\n' then cs.dropLast else cs

/-- One digit or more. -/
def isWhole (cs : List Char) : Bool := !cs.isEmpty && cs.all isDigit

/-- Digits, a point, and one digit or more. -/
def isFraction (cs : List Char) : Bool :=
  match cs.dropWhile isDigit with
  | '.' :: rest => isWhole rest
  | _ => false

/-- A dash before a number with or without a point. -/
def isNegativeNumber (cs : List Char) : Bool :=
  match dropLineFeed cs with
  | '-' :: rest => isWhole rest || isFraction rest
  | _ => false

/-- What an argument is that starts with a dash and is no exact spelling. -/
def tokenOfInexact (cs : List Char) : Except UsageError Token :=
  match candidates cs with
  | [c] => .ok (.switch c.switch c.attached)
  | [] => .ok (if isNegativeNumber cs || cs.contains ' ' then .value else .unknown)
  | several => .error (.ambiguous (String.ofList cs) (several.map (·.spelling)))

/-- What an argument is before the separator. -/
def tokenOf (cs : List Char) : Except UsageError Token :=
  match cs with
  | [] => .ok .value
  | ['-'] => .ok .value
  | '-' :: _ =>
    match spelled? cs with
    | some s => .ok (.switch s none)
    | none =>
      match splitEquals cs with
      | (before, some after) =>
        match spelled? before with
        | some s => .ok (.switch s (some ⟨true, after⟩))
        | none => tokenOfInexact cs
      | (_, none) => tokenOfInexact cs
  | _ => .ok .value

/-- The tokens of a command line, each with its argument. -/
def tokens : List String → Except UsageError (List (String × Token))
  | [] => .ok []
  | "--" :: rest => .ok (("--", .separator) :: rest.map (·, .value))
  | argument :: rest => do
    let token ← tokenOf argument.toList
    return (argument, token) :: (← tokens rest)

end Chip8.CommandLine
