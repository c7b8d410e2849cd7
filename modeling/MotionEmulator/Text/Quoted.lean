import MotionEmulator.Text.Printable

/-!
# Quoted text

`quoted` writes any text on one line of printable characters. It stands between single quotes,
or between double quotes when the text holds a single quote and no double one; the quote in
use, the backslash and whatever is not printable are escaped, by a letter where there is a
customary one and otherwise by the code point in hexadecimal.
-/

namespace MotionEmulator.Text

/-- A number in lower-case hexadecimal, filled up with zeros to a width. -/
def hexadecimal (width n : Nat) : List Char :=
  let digits := Nat.toDigits 16 n
  List.replicate (width - digits.length) '0' ++ digits

/-- The escape of a character by its code point, of two, four or eight digits. -/
def escapeByCode (c : Char) : List Char :=
  if c.toNat < 0x100 then '\\' :: 'x' :: hexadecimal 2 c.toNat
  else if c.toNat < 0x10000 then '\\' :: 'u' :: hexadecimal 4 c.toNat
  else '\\' :: 'U' :: hexadecimal 8 c.toNat

/-- A character as it stands inside quotes. -/
def escaped (quote c : Char) : List Char :=
  if c = quote ∨ c = '\\' then ['\\', c]
  else if c = '\t' then ['\\', 't']
  else if c = '\n' then ['\\', 'n']
  else if c = '\r' then ['\\', 'r']
  else if isPrintable c then [c]
  else escapeByCode c

/-- The quote that a text is put between. -/
def quoteFor (text : List Char) : Char :=
  if '\'' ∈ text ∧ '"' ∉ text then '"' else '\''

/-- A text between quotes, on one line. -/
def quoted (text : List Char) : List Char :=
  let quote := quoteFor text
  quote :: (text.flatMap (escaped quote) ++ [quote])

/-- A string between quotes, on one line. -/
def quotedString (text : String) : String :=
  String.ofList (quoted text.toList)

end MotionEmulator.Text
