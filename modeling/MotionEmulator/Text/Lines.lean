/-!
# Lines

A line feed, and nothing else, ends a line. `cutLines` takes the complete lines off the front of
a text and leaves the unfinished one; joined together they are the text again
(`flatten_cutLines`), and no line feed is left over (`lineFeed_not_mem_cutLines`).
-/

namespace MotionEmulator.Text

/-- The complete lines at the beginning of a text, each with its line feed, and the rest. -/
def cutLines : List Char → List (List Char) × List Char
  | [] => ([], [])
  | c :: rest =>
    let (lines, tail) := cutLines rest
    if c = '\n' then (['\n'] :: lines, tail)
    else
      match lines with
      | [] => ([], c :: tail)
      | line :: others => ((c :: line) :: others, tail)

theorem flatten_cutLines (text : List Char) :
    (cutLines text).1.flatten ++ (cutLines text).2 = text := by
  induction text with
  | nil => rfl
  | cons c rest ih =>
    rw [cutLines]
    dsimp only
    split
    · simp [*]
    · split <;> simp_all

theorem lineFeed_not_mem_cutLines (text : List Char) : '\n' ∉ (cutLines text).2 := by
  induction text with
  | nil => simp [cutLines]
  | cons c rest ih =>
    rw [cutLines]
    dsimp only
    split
    · exact ih
    · next hc =>
      split
      · simpa [Ne.symm hc] using ih
      · exact ih

/-- The lines of a text without their line feeds, the unfinished last one included. -/
def lines (text : List Char) : List (List Char) :=
  (cutLines text).1.map List.dropLast ++ [(cutLines text).2]

end MotionEmulator.Text
