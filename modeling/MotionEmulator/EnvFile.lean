/-!
# Environment files

An environment file assigns texts to names, one assignment to a line. A name alone is a bare name
and assigns nothing.

Files are read outside the emulator: a reader (`EnvFile.Reader`) says what the lines of a file
assign, what value each name comes to, and which variables are to be set. Whatever loads a file is
told which reader to use. `Reader.Documented` is what is known of a reader, whatever it takes for a
line and however it writes values.
-/

namespace MotionEmulator.EnvFile

/-- A name and what it is set to; a bare name has no value. -/
structure Assignment where
  name : String
  value : Option String
  deriving DecidableEq

/-- The last of the assignments that name a variable. -/
def LastNaming (made : List Assignment) (name : String) (a : Assignment) : Prop :=
  a.name = name ∧ ∃ before after, made = before ++ a :: after ∧ ∀ b ∈ after, b.name ≠ name

/-- What reads the text of a file, given the values of the variables that are set. -/
structure Reader where
  /-- What the lines assign, in order. Values that refer to variables have been completed. -/
  lines : (String → Option String) → List Char → List Assignment
  /-- What each name comes to. -/
  values : (String → Option String) → List Char → List Assignment
  /-- The variables that are to be set, with their values. -/
  puts : (String → Option String) → List Char → List (String × String)

end MotionEmulator.EnvFile
