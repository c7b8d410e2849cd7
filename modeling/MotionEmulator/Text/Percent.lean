import MotionEmulator.Text.Encoding

/-!
# Percent escapes

In an address a byte may be written as a percent sign and two hexadecimal digits. `unescapePercent`
reads the bytes that stand together as UTF-8. A percent sign without two such digits stands for
itself, and so does every other character.
-/

namespace MotionEmulator.Text

/-- The value of a hexadecimal digit, of either case. -/
def hexDigit? (c : Char) : Option Nat :=
  if c.isDigit then some (c.toNat - '0'.toNat)
  else if 'a' ≤ c.toLower ∧ c.toLower ≤ 'f' then some (c.toLower.toNat - 'a'.toNat + 10)
  else none

/-- The byte of two hexadecimal digits. -/
def hexByte? (high low : Char) : Option UInt8 := do
  return ((← hexDigit? high) * 16 + (← hexDigit? low)).toUInt8

/-- A text with its escapes replaced, given the decoder of the bytes before it. -/
def unescapePercentFrom (d : Decoder) : List Char → List Char
  | [] => d.finish
  | '%' :: high :: low :: rest =>
    match hexByte? high low with
    | some byte =>
      let (d, chars) := d.next byte
      chars ++ unescapePercentFrom d rest
    | none =>
      let (d, chars) := d.next 0x25
      chars ++ unescapePercentFrom d (high :: low :: rest)
  | c :: rest =>
    if c.toNat < 0x80 then
      let (d, chars) := d.next c.toNat.toUInt8
      chars ++ unescapePercentFrom d rest
    else d.finish ++ c :: unescapePercentFrom { d with state := .start } rest

/-- A text with its escapes replaced. -/
def unescapePercent (text : List Char) : List Char :=
  unescapePercentFrom { encoding := .utf8 } text

end MotionEmulator.Text
