import Mathlib.Data.List.Basic
import MotionEmulator.Text.Lines

/-!
# Cutting after every line feed

`Cut text lines tail` says what it means to cut a text after each of its line feeds and nowhere
else, without saying how. Every text has exactly one such cut, and `cutLines` finds it
(`cut_cutLines`, `Cut.eq_cutLines`). The number of lines is the number of line feeds
(`Cut.length_lines`).
-/

namespace MotionEmulator.Text

/-- A text cut after every line feed: each line ends in its only line feed, and there is none in
the tail. -/
structure Cut (text : List Char) (lines : List (List Char)) (tail : List Char) : Prop where
  joined : lines.flatten ++ tail = text
  ended : ∀ line ∈ lines, ∃ body, '\n' ∉ body ∧ line = body ++ ['\n']
  unended : '\n' ∉ tail

variable {text body tail more : List Char} {lines : List (List Char)}

/-- A text without a line feed is all tail. -/
theorem cutLines_of_not_mem (h : '\n' ∉ text) : cutLines text = ([], text) := by
  induction text with
  | nil => rfl
  | cons c rest ih =>
    rw [List.mem_cons, not_or] at h
    simp only [cutLines, ih h.2, if_neg (Ne.symm h.1)]

theorem lines_of_not_mem (h : '\n' ∉ text) : Text.lines text = [text] := by
  rw [Text.lines, cutLines_of_not_mem h]
  rfl

/-- The first line feed ends the first line. -/
theorem cutLines_append_lineFeed (h : '\n' ∉ body) (more : List Char) :
    cutLines (body ++ '\n' :: more) =
      ((body ++ ['\n']) :: (cutLines more).1, (cutLines more).2) := by
  induction body with
  | nil => simp only [List.nil_append, cutLines, if_true]
  | cons c rest ih =>
    rw [List.mem_cons, not_or] at h
    simp only [List.cons_append, cutLines, ih h.2, if_neg (Ne.symm h.1)]

theorem Cut.eq_cutLines (h : Cut text lines tail) : cutLines text = (lines, tail) := by
  obtain ⟨rfl, ended, unended⟩ := h
  induction lines with
  | nil => exact cutLines_of_not_mem unended
  | cons line rest ih =>
    obtain ⟨body, no_feed, rfl⟩ := ended line List.mem_cons_self
    have cut_rest := ih fun line mem => ended line (List.mem_cons_of_mem _ mem)
    rw [List.flatten_cons, List.append_assoc, List.append_assoc, List.singleton_append,
      cutLines_append_lineFeed no_feed, cut_rest]

theorem cut_cutLines (text : List Char) : Cut text (cutLines text).1 (cutLines text).2 where
  joined := flatten_cutLines text
  unended := lineFeed_not_mem_cutLines text
  ended := by
    induction text with
    | nil => simp [cutLines]
    | cons c rest ih =>
      intro line mem
      rw [cutLines] at mem
      dsimp only at mem
      split at mem
      · rcases List.mem_cons.1 mem with rfl | mem
        · exact ⟨[], by simp, rfl⟩
        · exact ih line mem
      · next other =>
        split at mem
        · cases mem
        · next first others eq =>
          rw [eq] at ih
          rcases List.mem_cons.1 mem with rfl | mem
          · obtain ⟨body, no_feed, rfl⟩ := ih first List.mem_cons_self
            exact ⟨c :: body, by simp [no_feed, Ne.symm other], rfl⟩
          · exact ih line (List.mem_cons_of_mem _ mem)

theorem Cut.length_lines (h : Cut text lines tail) : lines.length = text.count '\n' := by
  obtain ⟨rfl, ended, unended⟩ := h
  induction lines with
  | nil => simpa using (List.count_eq_zero.2 unended).symm
  | cons line rest ih =>
    obtain ⟨body, no_feed, rfl⟩ := ended line List.mem_cons_self
    have count_rest := ih fun line mem => ended line (List.mem_cons_of_mem _ mem)
    rw [List.flatten_cons, List.append_assoc, List.count_append, List.count_append,
      List.count_eq_zero.2 no_feed, List.count_singleton_self, List.length_cons, ← count_rest]
    omega

end MotionEmulator.Text
