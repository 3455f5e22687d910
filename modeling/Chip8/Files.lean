import Chip8.Fault

/-!
# Files

A snapshot of the files below a starting directory.

**Paths** (`components`). The parts between slashes. An empty part and a single dot stay where
they are, two dots go up, any other part goes down by name.

**Places** (`Place`). A walk stands in a directory, at a file, or above the starting directory,
where nothing is known but that directories are. A part after a file is an error of its own,
even an empty one.

**Reading** (`Files.read`). The bytes of the file where the walk ends.
-/

namespace Chip8

/-- The parts of a path between slashes. -/
def components : List Char → List (List Char)
  | [] => [[]]
  | c :: cs =>
    if c = '/' then [] :: components cs
    else
      match components cs with
      | [] => [[c]]
      | part :: parts => (c :: part) :: parts

/-- Files and directories by path, relative to the starting directory. -/
structure Files where
  contents : List (String × List UInt8)
  directories : List String
deriving Repr

/-- Where a walk along a path stands. -/
inductive Place where
  /-- A directory, by the parts that lead to it. -/
  | directory (path : List (List Char))
  /-- A file. -/
  | file (bytes : List UInt8)
  /-- A directory above the starting one. -/
  | outside
deriving Repr, DecidableEq

namespace Files

/-- A path in parts, without those that stay. -/
def parts (path : String) : List (List Char) :=
  (components path.toList).filter fun part => part ≠ [] ∧ part ≠ ['.']

/-- All paths that lead to a directory: those given, and those above anything given. -/
def isDirectory (files : Files) (path : List (List Char)) : Bool :=
  path.isEmpty
    || files.directories.any (fun d => path.isPrefixOf (parts d))
    || files.contents.any fun (f, _) => path.isPrefixOf (parts f).dropLast

def file? (files : Files) (path : List (List Char)) : Option (List UInt8) :=
  (files.contents.find? fun (f, _) => parts f = path).map (·.2)

/-- One part further along a path. -/
def follow (files : Files) (place : Place) (part : List Char) : Except ReadError Place :=
  match place with
  | .file _ => .error .notDirectory
  | .outside =>
    if part = [] ∨ part = ['.'] ∨ part = ['.', '.'] then .ok .outside else .error .missing
  | .directory here =>
    if part = [] ∨ part = ['.'] then .ok place
    else if part = ['.', '.'] then .ok (if here = [] then .outside else .directory here.dropLast)
    else
      match files.file? (here ++ [part]) with
      | some bytes => .ok (.file bytes)
      | none =>
        if files.isDirectory (here ++ [part]) then .ok (.directory (here ++ [part]))
        else .error .missing

def find (files : Files) (path : List Char) : Except ReadError Place :=
  match path with
  | [] => .error .missing
  | '/' :: rest => (components rest).foldlM files.follow .outside
  | path => (components path).foldlM files.follow (.directory [])

def read (files : Files) (path : String) : Except Fault (List UInt8) :=
  if path.toList.contains '\x00' then .error .zeroInPath
  else
    match files.find path.toList with
    | .error cause => .error (.unreadable path cause)
    | .ok (.file bytes) => .ok bytes
    | .ok _ => .error (.unreadable path .directory)

end Files

end Chip8
