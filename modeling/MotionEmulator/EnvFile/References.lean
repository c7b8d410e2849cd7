import MotionEmulator.EnvFile

/-!
# References

A value of an environment file may refer to variables. `${NAME}` stands for the value of the
variable `NAME`, and `${NAME:-text}` stands for `text` when there is no such variable; without a
text the empty one is taken. A name goes up to the first colon or closing brace, and what does
not have one of these two forms stands for itself. `parts` takes a value apart and `expand`
replaces its references. `resolve` does so for the assignments of a file one after the other: a
variable that is set already has its value, any other one the value that the file has assigned to
it so far.
-/

namespace MotionEmulator.EnvFile

/-- A reference to a variable. -/
structure Reference where
  name : List Char
  /-- What stands in for a variable that does not exist. -/
  fallback : List Char
  deriving DecidableEq

/-- The reference that a text continues with behind `${`, and its length with the brace. -/
def readReference? (text : List Char) : Option (Reference × Nat) :=
  let name := text.takeWhile fun c => c ≠ ':' ∧ c ≠ '}'
  match text.drop name.length with
  | '}' :: _ => some (⟨name, []⟩, name.length + 1)
  | ':' :: '-' :: rest =>
    let fallback := rest.takeWhile (· ≠ '}')
    if fallback.length < rest.length then
      some (⟨name, fallback⟩, name.length + fallback.length + 3)
    else none
  | _ => none

/-- What a reference stands for, given the values of variables. -/
def Reference.value (r : Reference) (value? : String → Option String) : List Char :=
  ((value? (String.ofList r.name)).map String.toList).getD r.fallback

/-- What a value is made of. -/
inductive Part where
  | plain (c : Char)
  | reference (r : Reference)
  deriving DecidableEq

/-- What a part stands for. -/
def Part.value (value? : String → Option String) : Part → List Char
  | plain c => [c]
  | reference r => r.value value?

/-- The parts of a text, of which so many characters belong to a reference before. -/
def partsFrom : Nat → List Char → List Part
  | _, [] => []
  | within + 1, _ :: rest => partsFrom within rest
  | 0, c :: rest =>
    match c, rest with
    | '$', '{' :: text =>
      match readReference? text with
      | some (r, length) => .reference r :: partsFrom (length + 1) rest
      | none => .plain c :: partsFrom 0 rest
    | _, _ => .plain c :: partsFrom 0 rest

/-- The parts of a text. -/
def parts (text : List Char) : List Part :=
  partsFrom 0 text

/-- The variables that a text refers to. -/
def referredTo (text : List Char) : List String :=
  (parts text).filterMap fun part =>
    match part with
    | .plain _ => none
    | .reference r => some (String.ofList r.name)

/-- A text with its references replaced. -/
def expand (value? : String → Option String) (text : List Char) : List Char :=
  (parts text).flatMap (Part.value value?)

/-- What a file has assigned to a name; a bare name counts as assigned the empty text. -/
def assigned? (assignments : List Assignment) (name : String) : Option String :=
  (assignments.reverse.find? fun a => a.name = name).map fun a => a.value.getD ""

/-- Assignments with their references replaced, given those before them. -/
def resolveFrom (value? : String → Option String) (before : List Assignment) :
    List Assignment → List Assignment
  | [] => []
  | a :: rest =>
    let known? := fun name => (value? name).or (assigned? before name)
    let value := a.value.map fun text => String.ofList (expand known? text.toList)
    { a with value } :: resolveFrom value? (before ++ [{ a with value }]) rest

/-- The assignments of a file with their references replaced, given the variables that are set. -/
def resolve (value? : String → Option String) (assignments : List Assignment) :
    List Assignment :=
  resolveFrom value? [] assignments

end MotionEmulator.EnvFile
