import Mathlib.Data.List.TakeWhile
import MotionEmulator.Proofs.Text.Words
import MotionEmulator.Token

/-!
# Tokens and the blanks around them

`Text.Spaced` takes a text apart into gaps of blanks and the words between them: each word is as
long as it can be, since a gap or the end of the text follows it. Every text can be taken apart in
this way and in no other, and its words are those of `Text.words` (`spaced_iff`).

So blanks of any kind and in any number only part what stands on their two sides, and a piece of a
line counts for itself, whatever its neighbours are: `Command.ofLine_spaced`.
-/

namespace MotionEmulator

namespace Text

/-- A text of blanks only. It may be empty. -/
def IsGap (gap : List Char) : Prop :=
  ∀ c ∈ gap, isBlank c = true

/-- A text that can stand behind a word: it is empty or begins with a blank. -/
def Follows (text : List Char) : Prop :=
  ∀ c ∈ text.head?, isBlank c = true

/-- A text that can stand before a word: it is empty or ends with a blank. -/
def Precedes (text : List Char) : Prop :=
  ∀ c ∈ text.getLast?, isBlank c = true

/-- A text and its longest blank-free pieces, in order. -/
inductive Spaced : List Char → List (List Char) → Prop
  | gap {gap : List Char} (blank : IsGap gap) : Spaced gap []
  | word {gap w rest : List Char} {ws : List (List Char)} (blank : IsGap gap) (word : IsWord w)
      (follows : Follows rest) (later : Spaced rest ws) : Spaced (gap ++ w ++ rest) (w :: ws)

variable {gap w a b : List Char}

theorem Follows.eq_nil_or_cons (follows : Follows b) :
    b = [] ∨ ∃ s rest, b = s :: rest ∧ isBlank s = true := by
  cases b with
  | nil => exact .inl rfl
  | cons s rest => exact .inr ⟨s, rest, rfl, follows s rfl⟩

theorem Precedes.eq_nil_or_concat (precedes : Precedes a) :
    a = [] ∨ ∃ front s, a = front ++ [s] ∧ isBlank s = true := by
  rcases List.eq_nil_or_concat' a with nil | ⟨front, s, eq⟩
  · exact .inl nil
  · refine .inr ⟨front, s, eq, precedes s ?_⟩
    rw [eq, List.getLast?_concat]
    rfl

/-! ## Words and gaps -/

/-- A blank in front of a text belongs to no word. -/
theorem words_cons_blank {s : Char} (hs : isBlank s = true) (text : List Char) :
    words (s :: text) = words text :=
  words_append_blank hs [] text

/-- A gap in front of a text has no words. -/
theorem words_gap_append (blank : IsGap gap) (text : List Char) :
    words (gap ++ text) = words text := by
  induction gap with
  | nil => rfl
  | cons s rest ih =>
    obtain ⟨hs, others⟩ := List.forall_mem_cons.1 blank
    rw [List.cons_append, words_cons_blank hs, ih others]

/-- A gap has no words. -/
theorem words_gap (blank : IsGap gap) : words gap = [] := by
  have alone := words_gap_append blank []
  rwa [List.append_nil] at alone

/-- What follows a word is parted from all that stands before it. -/
theorem words_append_follows (follows : Follows b) (a : List Char) :
    words (a ++ b) = words a ++ words b := by
  rcases follows.eq_nil_or_cons with rfl | ⟨s, rest, rfl, hs⟩
  · rw [List.append_nil, words_nil, List.append_nil]
  · rw [words_append_blank hs, words_cons_blank hs]

/-- What precedes a word is parted from all that stands behind it. -/
theorem words_append_precedes (precedes : Precedes a) (b : List Char) :
    words (a ++ b) = words a ++ words b := by
  rcases precedes.eq_nil_or_concat with rfl | ⟨front, s, rfl, hs⟩
  · rfl
  · have last : words (front ++ [s]) = words front := by
      rw [words_append_blank hs, words_nil, List.append_nil]
    rw [List.append_assoc, List.singleton_append, words_append_blank hs, last]

theorem follows_gap_append (ne : gap ≠ []) (blank : IsGap gap) (b : List Char) :
    Follows (gap ++ b) := by
  obtain ⟨s, rest, rfl⟩ := List.exists_cons_of_ne_nil ne
  rintro c ⟨⟩
  exact blank s List.mem_cons_self

theorem follows_gap (blank : IsGap gap) : Follows gap :=
  fun c mem => blank c (List.mem_of_mem_head? mem)

/-- **A gap parts the words before it from the words behind it.** -/
theorem words_append_gap_append (ne : gap ≠ []) (blank : IsGap gap) (a b : List Char) :
    words (a ++ gap ++ b) = words a ++ words b := by
  rw [List.append_assoc, words_append_follows (follows_gap_append ne blank b),
    words_gap_append blank]

/-- A gap at the end of a text has no words. -/
theorem words_append_gap (blank : IsGap gap) (a : List Char) : words (a ++ gap) = words a := by
  rw [words_append_follows (follows_gap blank), words_gap blank, List.append_nil]

theorem isGap_takeWhile (text : List Char) : IsGap (text.takeWhile isBlank) :=
  fun _ mem => List.mem_takeWhile_imp mem

/-- Taking the blanks off both ends leaves the words. -/
theorem words_strip (text : List Char) : words (strip text) = words text := by
  have front : text.takeWhile isBlank ++ text.dropWhile isBlank = text :=
    List.takeWhile_append_dropWhile
  have back : strip text ++ ((text.dropWhile isBlank).reverse.takeWhile isBlank).reverse =
      text.dropWhile isBlank := by
    rw [strip, ← List.reverse_append, List.takeWhile_append_dropWhile, List.reverse_reverse]
  have blank : IsGap ((text.dropWhile isBlank).reverse.takeWhile isBlank).reverse :=
    fun c mem => isGap_takeWhile _ c (List.mem_reverse.1 mem)
  calc words (strip text) = words (text.dropWhile isBlank) := by
        rw [← words_append_gap blank, back]
    _ = words text := by
        rw [← words_gap_append (isGap_takeWhile text), front]

/-! ## Taking a text apart -/

theorem Spaced.words_eq {text : List Char} {ws : List (List Char)} (spaced : Spaced text ws) :
    words text = ws := by
  induction spaced with
  | gap blank => exact words_gap blank
  | word blank word follows _ ih =>
    rw [words_append_follows follows, words_gap_append blank, word.words, ih]
    rfl

/-- One more character in front of a text makes its first gap or its first word longer, or is a
word of its own. -/
theorem Spaced.exists_cons {text : List Char} {ws : List (List Char)} (spaced : Spaced text ws)
    (c : Char) : ∃ ws', Spaced (c :: text) ws' := by
  cases h : isBlank c with
  | true =>
    have more {gap : List Char} (blank : IsGap gap) : IsGap (c :: gap) :=
      List.forall_mem_cons.2 ⟨h, blank⟩
    cases spaced with
    | gap blank => exact ⟨_, .gap (more blank)⟩
    | word blank word follows later => exact ⟨_, .word (more blank) word follows later⟩
  | false =>
    have empty : IsGap [] := fun _ mem => by cases mem
    have single : IsWord [c] :=
      ⟨List.cons_ne_nil _ _, fun d mem => by rw [List.mem_singleton.1 mem, h]⟩
    cases spaced with
    | gap blank => exact ⟨_, .word empty single (follows_gap blank) (.gap blank)⟩
    | @word gap w rest ws blank word follows later =>
      by_cases ne : gap = []
      · subst ne
        exact ⟨_, .word empty ⟨List.cons_ne_nil c w, List.forall_mem_cons.2 ⟨h, word.2⟩⟩
          follows later⟩
      · have parted : Follows (gap ++ w ++ rest) := by
          rw [List.append_assoc]
          exact follows_gap_append ne blank _
        exact ⟨_, .word empty single parted (.word blank word follows later)⟩

/-- **A text is taken apart in one way only**, and its pieces are its words. -/
theorem spaced_iff {text : List Char} {ws : List (List Char)} :
    Spaced text ws ↔ words text = ws := by
  refine ⟨Spaced.words_eq, ?_⟩
  rintro rfl
  have exists_spaced : ∃ ws, Spaced text ws := by
    induction text with
    | nil => exact ⟨[], .gap fun _ mem => by cases mem⟩
    | cons c rest ih =>
      obtain ⟨ws, spaced⟩ := ih
      exact spaced.exists_cons c
  obtain ⟨ws, spaced⟩ := exists_spaced
  rw [spaced.words_eq]
  exact spaced

end Text

namespace Command

open Text

/-- **Blanks part commands and do nothing else.** What stands on the two sides of a gap is read
apart, a gap at an end of a line changes nothing, the commands of a line are those of its longest
blank-free pieces in order, and a piece adds its own command or, if it is no token, none, whatever
stands around it. -/
theorem ofLine_spaced :
    (∀ a gap b, gap ≠ [] → IsGap gap → ofLine (a ++ gap ++ b) = ofLine a ++ ofLine b) ∧
      (∀ before line after, IsGap before → IsGap after →
        ofLine (before ++ line ++ after) = ofLine line) ∧
      (∀ line, ofLine (strip line) = ofLine line) ∧
      (∀ line, ∃! ws, Spaced line ws) ∧
      (∀ line ws, Spaced line ws → ofLine line = ws.filterMap ofToken?) ∧
      (∀ a w b, Precedes a → IsWord w → Follows b →
        ofLine (a ++ w ++ b) = ofLine a ++ (ofToken? w).toList ++ ofLine b) := by
  refine ⟨fun a gap b ne blank => ?_, fun before line after first last => ?_, fun line => ?_,
    fun line => ?_, fun line ws spaced => ?_, fun a w b precedes word follows => ?_⟩
  · rw [ofLine, words_append_gap_append ne blank, List.filterMap_append]
    rfl
  · rw [ofLine, words_append_gap last, words_gap_append first]
    rfl
  · rw [ofLine, words_strip]
    rfl
  · exact ⟨words line, spaced_iff.2 rfl, fun ws spaced => spaced.words_eq.symm⟩
  · rw [ofLine, spaced.words_eq]
  · have own : [w].filterMap ofToken? = (ofToken? w).toList := by
      rw [List.filterMap_cons, List.filterMap_nil]
      cases ofToken? w <;> rfl
    rw [ofLine, words_append_follows follows, words_append_precedes precedes, word.words,
      List.filterMap_append, List.filterMap_append, own]
    rfl

/-- Separators beyond ASCII part two tokens, and a zero-width space joins two. -/
example :
    (ofLine "L05\x1c\u2003R19\u0085".toList).map Command.wire = ["L05000".toList, "R19000".toList] ∧
      ofLine "L05\u200bR19".toList = [] := by
  decide +kernel

end Command

end MotionEmulator
