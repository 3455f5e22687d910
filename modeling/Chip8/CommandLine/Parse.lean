import Chip8.CommandLine.Token
import Chip8.Text.IntegerSyntax

/-!
# Reading the command line

Tokens are taken from left to right, so the first thing that is wrong, or a request for help,
decides. A repeated switch counts by its last value.

**The path.** The first value that no switch takes. A separator before it, or directly after
it, belongs to it; all other values and separators are left over.

**In the end** the path must be there, and nothing may be left over.
-/

namespace Chip8.CommandLine

/-- What the command line asks for. -/
structure Options where
  rom : String
  cycles : Int := 700
  frequency : Int := 700
  seed : Int := 0
  logLevel : Level := .info
  noProgress : Bool := false
  /-- The instructions to list instead of running; none is a run. -/
  disassemble : Int := 0
deriving Repr, DecidableEq

/-- Why there are no options. -/
inductive Stop where
  | help
  | usage (error : UsageError)
deriving Repr, DecidableEq

/-- The command line as far as it is read. -/
structure Reading where
  rom : Option String
  options : Options
  /-- The arguments left over, the last one first. -/
  extras : List String
deriving Repr, DecidableEq

namespace Reading

def start : Reading := ⟨none, { rom := "" }, []⟩

/-- An argument is left over. -/
def extra (r : Reading) (argument : String) : Reading :=
  { r with extras := argument :: r.extras }

/-- An integer for a switch. -/
def integer (s : Switch) (value : String) : Except Stop Int :=
  match IntegerSyntax.read? value with
  | some n => .ok n
  | none => .error (.usage (.invalidInteger s value))

/-- A log level in any case. -/
def level (value : String) : Except Stop Level :=
  let name := UpperCase.upper value
  match Level.ofName? name with
  | some l => .ok l
  | none => .error (.usage (.invalidLevel name))

/-- Takes the value of a switch. -/
def assign (r : Reading) (s : Switch) (value : String) : Except Stop Reading :=
  match s with
  | .cycles => do return { r with options.cycles := ← integer s value }
  | .frequency => do return { r with options.frequency := ← integer s value }
  | .seed => do return { r with options.seed := ← integer s value }
  | .disassemble => do return { r with options.disassemble := ← integer s value }
  | .logLevel => do return { r with options.logLevel := ← level value }
  | .help | .noProgress => .ok r

/-- Takes a switch without a value. -/
def take (r : Reading) (s : Switch) : Except Stop Reading :=
  match s with
  | .help => .error .help
  | .noProgress => .ok { r with options.noProgress := true }
  | _ => .ok r

/-- What becomes of text attached directly to the short help switch: further short switches,
of which there are no others, so it ends in help unless a value is attached to the last. -/
def shortCluster (equals : Bool) : List Char → Stop
  | [] => .usage (.ignoredValue .help "")
  | c :: cs =>
    if equals ∨ c = '-' then .usage (.ignoredValue .help (String.ofList (c :: cs)))
    else if c = 'h' then
      match cs with
      | [] => .help
      | '=' :: rest => .usage (.ignoredValue .help (String.ofList rest))
      | rest => shortCluster false rest
    else .help

/-- What becomes of text attached to a switch without a value. -/
def attachedStop (s : Switch) (a : Attached) : Stop :=
  if a.equals then .usage (.ignoredValue s (String.ofList a.text)) else shortCluster false a.text

/-- Reads tokens. -/
def consume (r : Reading) : List (String × Token) → Except Stop Reading
  | [] => .ok r
  | (argument, .unknown) :: rest => (r.extra argument).consume rest
  | (argument, .value) :: rest =>
    match r.rom, rest with
    | none, (_, .separator) :: rest => { r with rom := some argument }.consume rest
    | none, rest => { r with rom := some argument }.consume rest
    | some _, rest => (r.extra argument).consume rest
  | (argument, .separator) :: rest =>
    match r.rom, rest with
    | none, (path, _) :: rest => { r with rom := some path }.consume rest
    | _, rest => (r.extra argument).consume rest
  | (_, .switch s (some a)) :: rest =>
    if s.takesValue then do (← r.assign s (String.ofList a.text)).consume rest
    else .error (attachedStop s a)
  | (_, .switch s none) :: rest =>
    if s.takesValue then
      match rest with
      | (value, .value) :: rest => do (← r.assign s value).consume rest
      | _ => .error (.usage (.expectedValue s))
    else do (← r.take s).consume rest
termination_by tokens => tokens.length
decreasing_by all_goals simp only [List.length_cons, wfParam]; omega

/-- The options read, if nothing is missing or left over. -/
def finish (r : Reading) : Except Stop Options :=
  match r.rom with
  | none => .error (.usage .missingRom)
  | some rom =>
    if r.extras = [] then .ok { r.options with rom }
    else .error (.usage (.unrecognized r.extras.reverse))

end Reading

def parse (arguments : List String) : Except Stop Options :=
  match tokens arguments with
  | .error e => .error (.usage e)
  | .ok tokens => do (← Reading.start.consume tokens).finish

end Chip8.CommandLine
