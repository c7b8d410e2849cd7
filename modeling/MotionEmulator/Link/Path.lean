import MotionEmulator.Fault
import MotionEmulator.Text.Pieces

/-!
# Paths

A path leads through a file tree from the root or from the working directory. Of the tree only
those places are known that every system has, and nothing is known of what the working directory
holds. There is no terminal in it, so that no path can be opened as a port; `Path.refusal` says
why.
-/

namespace MotionEmulator.Path

/-- What a path leads to. -/
inductive Place where
  | directory
  /-- A device file that no device stands behind. -/
  | vacant
  /-- Something else that can be opened and is no terminal. -/
  | plain
  deriving DecidableEq

/-- The directories that the root holds, with those of their directories that are known. -/
def directories : List (String × List String) :=
  [("bin", []), ("boot", []), ("dev", ["fd", "mqueue", "pts", "shm"]), ("etc", []), ("home", []),
    ("lib", []), ("lib64", []), ("media", []), ("mnt", []), ("opt", []), ("proc", ["self"]),
    ("root", []), ("run", []), ("sbin", []), ("srv", []), ("sys", ["class", "dev", "devices"]),
    ("tmp", []), ("usr", ["bin", "include", "lib", "local", "sbin", "share"]),
    ("var", ["cache", "lib", "log", "run", "spool", "tmp"])]

/-- The files that are known and can be opened. -/
def plainFiles : List (List String) :=
  [["dev", "full"], ["dev", "null"], ["dev", "random"], ["dev", "stderr"], ["dev", "stdin"],
    ["dev", "stdout"], ["dev", "urandom"], ["dev", "zero"], ["etc", "group"], ["etc", "hostname"],
    ["etc", "hosts"], ["etc", "passwd"], ["etc", "resolv.conf"]]

/-- What is known to stand at a place, given by the names that lead to it from the root. -/
def place? (names : List String) : Option Place :=
  match names with
  | [] => some .directory
  | ["dev", "tty"] => some .vacant
  | [name] => if directories.any (·.1 = name) then some .directory else none
  | [parent, name] =>
    if directories.any fun d => d.1 = parent ∧ name ∈ d.2 then some .directory
    else if [parent, name] ∈ plainFiles then some .plain
    else none
  | _ => none

/-- The most bytes of a name. -/
def nameLimit : Nat :=
  255

/-- The first number of bytes that no path can have. -/
def lengthLimit : Nat :=
  4096

/-- Follows names from a place; the working directory and all above it have no known names. -/
def follow (names? : Option (List String)) (place : Place) :
    List String → Except PathFault Place
  | [] => .ok place
  | name :: rest =>
    if place ≠ .directory then .error .notDirectory
    else if name = "" ∨ name = "." then follow names? place rest
    else if name = ".." then follow (names?.map List.dropLast) place rest
    else if nameLimit < name.utf8ByteSize then .error .nameTooLong
    else
      let names? := names?.map (· ++ [name])
      match names?.bind place? with
      | none => .error .missing
      | some place => follow names? place rest

/-- What a path leads to. -/
def find (path : String) : Except PathFault Place :=
  if path = "" then .error .missing
  else if lengthLimit ≤ path.utf8ByteSize then .error .nameTooLong
  else
    let start := if path.toList.head? = some '/' then some [] else none
    follow start .directory ((Text.pieces (· = '/') path.toList).map String.ofList)

/-- Why a path does not open as a port. -/
def refusal (path : String) : OpenFault :=
  if '\x00' ∈ path.toList then .nulInPath
  else
    match find path with
    | .error cause => .blocked path cause
    | .ok .directory => .blocked path .isDirectory
    | .ok .vacant => .blocked path .noDevice
    | .ok .plain => .notTerminal

end MotionEmulator.Path
