import Mathlib.Data.List.Basic
import MotionEmulator.Text.Blank

/-!
# Words

What stands on the two sides of a separator is cut into pieces independently
(`pieces_append_separator`), so a separator splits the list of words in two
(`words_append_blank`). Words that are put together with spaces are found again
(`words_intercalate`).
-/

namespace MotionEmulator.Text

variable {separates : Char → Bool} {s : Char} {w : List Char}

theorem pieces_ne_nil (separates : Char → Bool) (text : List Char) :
    pieces separates text ≠ [] := by
  have length := length_pieces separates text
  intro nil
  rw [nil] at length
  cases length

theorem pieces_append_separator (hs : separates s) (a b : List Char) :
    pieces separates (a ++ s :: b) = pieces separates a ++ pieces separates b := by
  induction a with
  | nil => simp [pieces, hs]
  | cons c rest ih =>
    rw [List.cons_append, pieces, pieces, ih]
    split
    · rfl
    · obtain ⟨first, others, eq⟩ := List.exists_cons_of_ne_nil (pieces_ne_nil separates rest)
      rw [eq]
      rfl

theorem properPieces_append_separator (hs : separates s) (a b : List Char) :
    properPieces separates (a ++ s :: b) =
      properPieces separates a ++ properPieces separates b := by
  rw [properPieces, pieces_append_separator hs, List.filter_append]
  rfl

/-- A text without separators is one piece. -/
theorem pieces_of_none (h : ∀ c ∈ w, separates c = false) : pieces separates w = [w] := by
  induction w with
  | nil => rfl
  | cons c rest ih =>
    obtain ⟨hc, hrest⟩ := List.forall_mem_cons.1 h
    simp [pieces, hc, ih hrest]

/-! ## Words -/

theorem words_nil : words [] = [] := rfl

/-- A blank parts the words before it from the words behind it. -/
theorem words_append_blank (hs : isBlank s) (a b : List Char) :
    words (a ++ s :: b) = words a ++ words b :=
  properPieces_append_separator hs a b

/-- A text that can be a word: it is not empty and has no blank. -/
def IsWord (w : List Char) : Prop :=
  w ≠ [] ∧ ∀ c ∈ w, isBlank c = false

theorem IsWord.words (h : IsWord w) : words w = [w] := by
  obtain ⟨ne, plain⟩ := h
  rw [Text.words, properPieces, pieces_of_none plain]
  simp [ne]

/-- **Words that are put together with spaces are found again.** -/
theorem words_intercalate {ws : List (List Char)} (h : ∀ w ∈ ws, IsWord w) :
    words (List.intercalate [' '] ws) = ws := by
  have space : isBlank ' ' := by decide
  induction ws with
  | nil => rfl
  | cons w rest ih =>
    obtain ⟨hw, hrest⟩ := List.forall_mem_cons.1 h
    cases rest with
    | nil => simpa using hw.words
    | cons v others =>
      rw [List.intercalate_cons_cons, List.append_assoc, List.singleton_append,
        words_append_blank space, hw.words, ih hrest]
      rfl

/-- Words put together with spaces have no characters but their own and spaces. -/
theorem mem_intercalate_space {c : Char} {ws : List (List Char)}
    (h : c ∈ List.intercalate [' '] ws) : c = ' ' ∨ ∃ w ∈ ws, c ∈ w := by
  induction ws with
  | nil => cases h
  | cons w rest ih =>
    cases rest with
    | nil => exact .inr ⟨w, List.mem_cons_self, by simpa using h⟩
    | cons v others =>
      rw [List.intercalate_cons_cons, List.append_assoc, List.mem_append, List.mem_append,
        List.mem_singleton] at h
      rcases h with own | space | later
      · exact .inr ⟨w, List.mem_cons_self, own⟩
      · exact .inl space
      · rcases ih later with space | ⟨u, mem, own⟩
        · exact .inl space
        · exact .inr ⟨u, List.mem_cons_of_mem _ mem, own⟩

/-- The printable characters of ASCII other than the space are no blanks. -/
theorem isBlank_eq_false {c : Char} (low : 0x20 < c.toNat) (high : c.toNat < 0x7f) :
    isBlank c = false := by
  simp only [isBlank, inRanges, blankRanges, List.any_cons, List.any_nil, Bool.or_false,
    Bool.or_eq_false_iff, Bool.and_eq_false_iff, decide_eq_false_iff_not]
  omega

end MotionEmulator.Text
