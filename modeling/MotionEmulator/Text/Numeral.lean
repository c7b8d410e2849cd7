import MotionEmulator.Binary64.Arithmetic
import MotionEmulator.Text.Blank
import MotionEmulator.Text.DecimalDigit

/-!
# Numbers written by people

`readInt?` and `readReal?` read the numbers of environment variables and of the command line.
Digits of every script count, single underscores may group digits, and ASCII blanks around the
number are dropped. An integer has an optional sign and digits, at most `maxIntDigits` of them;
a real number may also have a fraction and an exponent, or be infinite or not a number by name.
-/

namespace MotionEmulator.Text

/-- The longest integer that is read, in digits; leading zeros count. -/
def maxIntDigits : Nat :=
  4300

/-- A character of a number in ASCII: digits of other scripts become ASCII digits and other
blanks become spaces. What has no place in a number becomes a question mark. -/
def plainNumeralChar (c : Char) : Char :=
  if c.toNat < 127 then c
  else if isBlank c then ' '
  else
    match digitValue? c with
    | some n => Char.ofNat ('0'.toNat + n)
    | none => '?'

/-- The blanks that may stand around a number. -/
def isNumeralBlank (c : Char) : Bool :=
  c = ' ' || ('\t' ≤ c && c ≤ '\r')

/-- Whether a text holds a character beyond ASCII. -/
def hasNonAscii (text : List Char) : Bool :=
  text.any fun c => 128 ≤ c.toNat

/-- The number's own characters, in ASCII. -/
def numeralBody (text : List Char) : List Char :=
  let plain := if hasNonAscii text then text.map plainNumeralChar else text
  ((plain.dropWhile isNumeralBlank).reverse.dropWhile isNumeralBlank).reverse

/-- A text without its underscores, given whether a digit stands before it; none unless each
underscore stands between two digits. -/
def ungroup? (afterDigit : Bool) : List Char → Option (List Char)
  | [] => some []
  | '_' :: rest =>
    if afterDigit && (rest.head?.any isDigit) then ungroup? false rest else none
  | c :: rest => (ungroup? (isDigit c) rest).map (c :: ·)

/-- An optional sign, as whether it is a minus, and the text after it. -/
def splitSign : List Char → Bool × List Char
  | '-' :: rest => (true, rest)
  | '+' :: rest => (false, rest)
  | text => (false, text)

/-- The integer that a text denotes. -/
def readInt? (text : List Char) : Option Int := do
  let body ← ungroup? false (numeralBody text)
  let (negative, digits) := splitSign body
  if digits ≠ [] ∧ digits.all isDigit ∧ digits.length ≤ maxIntDigits then
    let n : Int := digitsValue digits
    some (if negative then -n else n)
  else none

/-- The exponent that ends a real number: nothing, or `e`, an optional sign and digits. -/
def readExponent? : List Char → Option Int
  | [] => some 0
  | mark :: rest =>
    let (negative, digits) := splitSign rest
    if (mark = 'e' ∨ mark = 'E') ∧ digits ≠ [] ∧ digits.all isDigit then
      let n : Int := digitsValue digits
      some (if negative then -n else n)
    else none

/-- The fraction digits after an optional decimal point, and the text after them. -/
def splitFraction : List Char → List Char × List Char
  | '.' :: rest => (rest.takeWhile isDigit, rest.dropWhile isDigit)
  | text => ([], text)

/-- An unsigned decimal with an optional fraction and exponent, of the given sign. -/
def readDecimal? (negative : Bool) (text : List Char) : Option Binary64 := do
  let whole := text.takeWhile isDigit
  let (fraction, rest) := splitFraction (text.dropWhile isDigit)
  let exponent ← readExponent? rest
  if whole = [] ∧ fraction = [] then none
  else
    some (Binary64.ofDecimal negative (digitsValue (whole ++ fraction))
      (exponent - fraction.length))

/-- The real number that a text denotes. -/
def readReal? (text : List Char) : Option Binary64 := do
  let body ← ungroup? false (numeralBody text)
  let (negative, rest) := splitSign body
  match String.ofList (rest.map Char.toLower) with
  | "inf" | "infinity" => some (.infinite negative)
  | "nan" => some .nan
  | _ => readDecimal? negative rest

end MotionEmulator.Text
