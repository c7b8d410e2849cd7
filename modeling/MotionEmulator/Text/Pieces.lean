/-!
# Pieces

`pieces` cuts a text at its separators, which belong to no piece. Between two separators that
stand together there is an empty piece, so there is always one more piece than there are
separators (`length_pieces`). `properPieces` are those that are not empty.
-/

namespace MotionEmulator.Text

/-- The pieces of a text between its separators, empty ones included. -/
def pieces (separates : Char → Bool) : List Char → List (List Char)
  | [] => [[]]
  | c :: rest =>
    if separates c then [] :: pieces separates rest
    else
      match pieces separates rest with
      | [] => [[c]]
      | piece :: others => (c :: piece) :: others

/-- The pieces of a text that hold a character, in order. -/
def properPieces (separates : Char → Bool) (text : List Char) : List (List Char) :=
  (pieces separates text).filter fun piece => !piece.isEmpty

theorem length_pieces (separates : Char → Bool) (text : List Char) :
    (pieces separates text).length = text.countP separates + 1 := by
  induction text with
  | nil => rfl
  | cons c rest ih =>
    rw [pieces]
    split
    · simp [*]
    · split <;> simp_all

end MotionEmulator.Text
