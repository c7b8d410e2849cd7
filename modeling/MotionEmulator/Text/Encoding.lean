import MotionEmulator.Text.Pieces
import MotionEmulator.Text.Quoted

/-!
# Bytes and text

A serial line carries bytes, in one of three encodings. Decoding goes byte by byte through a
`Decoder`, which remembers the character it is in the middle of, so that a character cut by the
end of a read is delivered whole with the next one. What is not valid is replaced by U+FFFD,
one for each longest part that could have begun a character. `decodeAll` decodes a sequence of
bytes and gives back the decoder after it: decoding in pieces is decoding the whole
(`decodeAll_append`).
-/

namespace MotionEmulator.Text

/-- How text is written in bytes. -/
inductive Encoding where
  | utf8
  | ascii
  | latin1
  deriving DecidableEq

/-- The customary name of an encoding. -/
def Encoding.name : Encoding → String
  | .utf8 => "utf-8"
  | .ascii => "ascii"
  | .latin1 => "latin-1"

/-! ## Names -/

/-- Whether a character belongs to a word of an encoding's name. -/
def isInEncodingName (c : Char) : Bool :=
  c.isAlphanum || c = '.'

/-- The plain spelling of an encoding's name: its words in lower case, joined by underscores. -/
def plainName (name : List Char) : List Char :=
  (['_'].intercalate (properPieces (fun c => !isInEncodingName c) name)).map Char.toLower

/-- The plain spelling of the name that an encoding has of its own. -/
def Encoding.ownName : Encoding → String
  | .utf8 => "utf_8"
  | .ascii => "ascii"
  | .latin1 => "latin_1"

/-- The plain spellings of the other names of an encoding. -/
def Encoding.aliases : Encoding → List String
  | .utf8 => ["u8", "utf", "utf8", "utf8_ucs2", "utf8_ucs4", "cp65001"]
  | .ascii =>
    ["646", "ansi_x3.4_1968", "ansi_x3_4_1968", "ansi_x3.4_1986", "cp367", "csascii", "ibm367",
      "iso646_us", "iso_646.irv_1991", "iso_ir_6", "us", "us_ascii"]
  | .latin1 =>
    ["8859", "cp819", "csisolatin1", "ibm819", "iso8859", "iso8859_1", "iso_8859_1",
      "iso_8859_1_1987", "iso_ir_100", "l1", "latin", "latin1"]

/-- Whether an encoding goes by a name, in any spelling of it. In an alias a point may stand for
an underscore. -/
def Encoding.goesBy (encoding : Encoding) (name : String) : Bool :=
  let plain := plainName name.toList
  let undotted := plain.map fun c => if c = '.' then '_' else c
  String.ofList plain = encoding.ownName || encoding.aliases.contains (String.ofList plain)
    || encoding.aliases.contains (String.ofList undotted)

/-- The encoding of a name. -/
def Encoding.ofName? (name : String) : Option Encoding :=
  [utf8, ascii, latin1].find? fun encoding => encoding.goesBy name

/-! ## Decoding -/

/-- What stands for bytes that are no character. -/
def replacement : Char :=
  '\ufffd'

/-- Where a decoder stands between two bytes. -/
inductive Decoder.State where
  /-- Between characters. -/
  | start
  /-- Inside a character of which `owed + 1` bytes are missing, the next one from `low` to
  `high`; `code` holds the bits so far. -/
  | inside (owed low high code : Nat)
  /-- After the byte `ED`, whose second byte decides between a character and a surrogate. -/
  | afterED
  /-- After the first two bytes of a surrogate, which is no character. -/
  | surrogate
  deriving DecidableEq

namespace Decoder.State

/-- A byte between characters: the state after it and the characters it completes. -/
def first (byte : Nat) : State × List Char :=
  if byte < 0x80 then (.start, [Char.ofNat byte])
  else if byte < 0xc2 then (.start, [replacement])
  else if byte < 0xe0 then (.inside 0 0x80 0xbf (byte - 0xc0), [])
  else if byte = 0xe0 then (.inside 1 0xa0 0xbf 0, [])
  else if byte = 0xed then (.afterED, [])
  else if byte < 0xf0 then (.inside 1 0x80 0xbf (byte - 0xe0), [])
  else if byte = 0xf0 then (.inside 2 0x90 0xbf 0, [])
  else if byte < 0xf4 then (.inside 2 0x80 0xbf (byte - 0xf0), [])
  else if byte = 0xf4 then (.inside 2 0x80 0x8f 4, [])
  else (.start, [replacement])

/-- A byte that does not belong to what was begun: `broken` replacements, then afresh. -/
def afresh (broken : Nat) (byte : Nat) : State × List Char :=
  let (state, chars) := first byte
  (state, List.replicate broken replacement ++ chars)

/-- One byte of UTF-8: the state after it and the characters it completes. -/
def next : State → Nat → State × List Char
  | .start, byte => first byte
  | .inside owed low high code, byte =>
    if low ≤ byte ∧ byte ≤ high then
      let code := code * 64 + (byte - 0x80)
      match owed with
      | 0 => (.start, [Char.ofNat code])
      | owed + 1 => (.inside owed 0x80 0xbf code, [])
    else afresh 1 byte
  | .afterED, byte =>
    if 0x80 ≤ byte ∧ byte ≤ 0x9f then (.inside 0 0x80 0xbf (0xd * 64 + (byte - 0x80)), [])
    else if 0xa0 ≤ byte ∧ byte ≤ 0xbf then (.surrogate, [])
    else afresh 1 byte
  | .surrogate, byte => afresh 2 byte

end Decoder.State

/-- An encoding with the place reached in it. -/
structure Decoder where
  encoding : Encoding
  state : Decoder.State := .start
  deriving DecidableEq

namespace Decoder

/-- One byte: the decoder after it and the characters it completes. -/
def next (d : Decoder) (byte : UInt8) : Decoder × List Char :=
  match d.encoding with
  | .utf8 =>
    let (state, chars) := d.state.next byte.toNat
    (⟨.utf8, state⟩, chars)
  | .ascii => (d, [if byte < 0x80 then Char.ofNat byte.toNat else replacement])
  | .latin1 => (d, [Char.ofNat byte.toNat])

/-- What stands for the bytes that a text breaks off with. -/
def finish (d : Decoder) : List Char :=
  match d.state with
  | .start => []
  | .inside _ _ _ _ | .afterED => [replacement]
  | .surrogate => [replacement, replacement]

/-- A sequence of bytes: the decoder after it and the text it completes. -/
def decodeAll (d : Decoder) : List UInt8 → Decoder × List Char
  | [] => (d, [])
  | byte :: rest =>
    let (d, chars) := d.next byte
    let (d, others) := d.decodeAll rest
    (d, chars ++ others)

/-- Bytes may be cut anywhere. -/
theorem decodeAll_append (d : Decoder) (xs ys : List UInt8) :
    d.decodeAll (xs ++ ys) =
      (((d.decodeAll xs).1.decodeAll ys).1,
        (d.decodeAll xs).2 ++ ((d.decodeAll xs).1.decodeAll ys).2) := by
  induction xs generalizing d with
  | nil => simp [decodeAll]
  | cons byte rest ih => simp [decodeAll, ih]

end Decoder

/-! ## Encoding -/

/-- The first run of characters that an encoding has no bytes for. -/
structure Unencodable where
  encoding : Encoding
  /-- The first of them. -/
  first : Char
  position : Nat
  length : Nat
  deriving DecidableEq

/-- The number of characters that have a byte of their own; none when all can be encoded. -/
def Encoding.limit? : Encoding → Option Nat
  | .utf8 => none
  | .ascii => some 0x80
  | .latin1 => some 0x100

/-- The characters of a text in bytes of their own. -/
def encodeSingle (encoding : Encoding) (limit : Nat) (text : List Char) :
    Except Unencodable (List UInt8) :=
  let fits := fun c : Char => decide (c.toNat < limit)
  match text.dropWhile fits with
  | [] => .ok (text.map fun c => c.toNat.toUInt8)
  | c :: rest =>
    .error ⟨encoding, c, (text.takeWhile fits).length,
      1 + (rest.takeWhile fun c => !fits c).length⟩

/-- A text in bytes. -/
def Encoding.encode (encoding : Encoding) (text : List Char) :
    Except Unencodable (List UInt8) :=
  match encoding.limit? with
  | none => .ok (text.flatMap String.utf8EncodeChar)
  | some limit => encodeSingle encoding limit text

/-- What cannot be encoded, and where, in words. -/
def Unencodable.message (u : Unencodable) : String :=
  let what :=
    if u.length = 1 then
      "character '" ++ String.ofList (escapeByCode u.first) ++ "' in position "
        ++ toString u.position
    else
      "characters in position " ++ toString u.position ++ "-"
        ++ toString (u.position + u.length - 1)
  let limit := toString (u.encoding.limit?.getD 0x110000)
  "'" ++ u.encoding.name ++ "' codec can't encode " ++ what ++ ": ordinal not in range("
    ++ limit ++ ")"

end MotionEmulator.Text
