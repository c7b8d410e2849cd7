import MotionEmulator.EnvFile.Lines
import MotionEmulator.EnvFile.References

/-!
# The reader of the program

`EnvFile.reader` is the reader of environment files that the program runs with.
-/

namespace MotionEmulator.EnvFile

/-- The last assignment of each name. -/
def lasts : List Assignment → List Assignment
  | [] => []
  | a :: rest => if ∃ b ∈ rest, b.name = a.name then lasts rest else a :: lasts rest

/-- The reader of the program. -/
def reader : Reader where
  lines known? text := resolve known? (assignments text)
  values known? text := lasts (resolve known? (assignments text))
  puts known? text :=
    (lasts (resolve known? (assignments text))).filterMap fun a =>
      if (known? a.name).isSome then none else a.value.map fun value => (a.name, value)

end MotionEmulator.EnvFile
