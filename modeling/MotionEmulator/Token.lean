import MotionEmulator.Command
import MotionEmulator.Text.Blank
import MotionEmulator.Text.Numeral

/-!
# Tokens and lines

A line holds tokens between blanks. A token is a channel's name and a run of digits, perhaps
followed by a kind's letter and a second run of digits. The first run is the fraction after a
decimal point: its first four digits count and missing ones are zero. The second is a plain
number that saturates. `Command.ofToken?` reads one token and gives none for anything else;
`Command.ofLine` is the list of the commands on a line, other tokens being dropped.

`decodeTarget` and `decodeParam` are the same two readings of digits for texts that may hold
other characters; they accept what `Text.readInt?` accepts.
-/

namespace MotionEmulator

namespace Token

/-- The first digits of a run, as many as a target has, with zeros for missing ones. -/
def targetDigits (digits : List Char) : List Char :=
  let kept := digits.take Position.digits
  kept ++ List.replicate (Position.digits - kept.length) '0'

/-- The target that a run of digits denotes. -/
def target (digits : List Char) : Nat :=
  Nat.min Position.top.toNat (Text.digitsValue (targetDigits digits))

/-- A text without its leading zeros. -/
def significant (digits : List Char) : List Char :=
  digits.dropWhile (· = '0')

/-- The parameter that a run of digits denotes. -/
def param (digits : List Char) : Nat :=
  if paramDigits < (significant digits).length then maxParam
  else Nat.min maxParam (Text.digitsValue digits)

theorem target_le (digits : List Char) : target digits ≤ Position.top.toNat :=
  Nat.min_le_left _ _

theorem param_le (digits : List Char) : param digits ≤ maxParam := by
  unfold param
  split
  · exact Nat.le_refl _
  · exact Nat.min_le_left _ _

/-- The extension that a letter and a run of digits denote. -/
def extension? (letter : Char) (digits : List Char) : Option Extension :=
  match h : MoveKind.ofLetter? letter with
  | none => none
  | some kind =>
    if digits ≠ [] ∧ digits.all Text.isDigit then
      some ⟨kind, param digits, MoveKind.ofLetter?_ne_immediate h, param_le digits⟩
    else none

end Token

/-- The command of a token. -/
def Command.ofToken? : List Char → Option Command
  | group :: index :: rest => do
    let channel ← Channel.ofChars? [group, index]
    let digits := rest.takeWhile Text.isDigit
    if digits = [] then none
    else
      match rest.dropWhile Text.isDigit with
      | [] => some ⟨channel, Token.target digits, none, Token.target_le digits⟩
      | letter :: param => do
        let extension ← Token.extension? letter param
        some ⟨channel, Token.target digits, some extension, Token.target_le digits⟩
  | _ => none

/-- The commands on a line, in order. -/
def Command.ofLine (line : List Char) : List Command :=
  (Text.words line).filterMap Command.ofToken?

/-- The target of a text that need not be digits. -/
def decodeTarget (text : List Char) : Except Fault Int :=
  match Text.readInt? (Token.targetDigits text) with
  | some n => .ok (Position.clamp n)
  | none => .error (.notInteger (Token.targetDigits text))

/-- The parameter of a text that need not be digits. -/
def decodeParam (text : List Char) : Except Fault Int :=
  let kept := Token.significant text
  if paramDigits < kept.length then .ok maxParam
  else
    let kept := if kept = [] then ['0'] else kept
    match Text.readInt? kept with
    | some n => .ok n
    | none => .error (.notInteger kept)

end MotionEmulator
