import MotionEmulator.Text.Pieces
import MotionEmulator.Text.Ranges

/-!
# Blank characters

The characters that separate words: the Unicode spaces and line breaks, and the four
information separators of ASCII. Zero-width characters are not blank. `strip` takes the blanks
off both ends of a text and `words` is the list of its blank-free pieces.
-/

namespace MotionEmulator.Text

/-- The code points of the blank characters. -/
def blankRanges : List (Nat × Nat) :=
  [(0x0009, 0x000d), (0x001c, 0x0020), (0x0085, 0x0085), (0x00a0, 0x00a0),
    (0x1680, 0x1680), (0x2000, 0x200a), (0x2028, 0x2029), (0x202f, 0x202f),
    (0x205f, 0x205f), (0x3000, 0x3000)]

/-- Whether a character separates words. -/
def isBlank (c : Char) : Bool :=
  inRanges blankRanges c

/-- A text without the blanks at its ends. -/
def strip (text : List Char) : List Char :=
  ((text.dropWhile isBlank).reverse.dropWhile isBlank).reverse

/-- The longest blank-free pieces of a text, in order. -/
def words (text : List Char) : List (List Char) :=
  properPieces isBlank text

end MotionEmulator.Text
