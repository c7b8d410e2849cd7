import MotionEmulator.Fault
import MotionEmulator.Text.LowerCase
import MotionEmulator.Text.Percent

/-!
# Addresses

A port's name that has `://` in it is an address: a scheme, a host and, behind a question mark,
options, as in `loop://host/path?name=value&name=value#rest`. `Address.check` says what is wrong
with a loopback's address: it may have any host that is well written, and no option but
`logging`.
-/

namespace MotionEmulator

/-- The address of a port. -/
structure Address where
  /-- In lower case. -/
  scheme : List Char
  host : List Char
  options : List (List Char × List Char)
  deriving DecidableEq

namespace Address

/-- The part of a port's name before `://`; none if the name is a path. -/
def beforeHost? : List Char → Option (List Char)
  | [] => none
  | c :: rest =>
    if (c :: rest).take 3 = [':', '/', '/'] then some []
    else (beforeHost? rest).map (c :: ·)

/-- A piece of the options in plain characters: a plus sign is a space. -/
def plainOption (text : List Char) : List Char :=
  Text.unescapePercent (text.map fun c => if c = '+' then ' ' else c)

/-- The name and the value of an option; without an equals sign the value is empty. -/
def readOption (text : List Char) : List Char × List Char :=
  let name := text.takeWhile (· ≠ '=')
  (plainOption name, plainOption (text.drop (name.length + 1)))

/-- The address that a port's name is; none if it is a path. Tabs and line breaks behind the
scheme do not count. -/
def ofName? (name : List Char) : Option Address :=
  (beforeHost? name).map fun scheme =>
    let text := (name.drop (scheme.length + 3)).filter fun c => c ≠ '\t' ∧ c ≠ '\n' ∧ c ≠ '\r'
    let host := text.takeWhile fun c => c ≠ '/' ∧ c ≠ '?' ∧ c ≠ '#'
    let query := ((text.drop host.length).takeWhile (· ≠ '#')).dropWhile (· ≠ '?')
    { scheme := Text.lowerCase scheme
      host
      options := (Text.properPieces (· = '&') query.tail).map readOption }

/-- The code points of the characters that are other forms of one or more characters, a
delimiter of addresses among these. -/
def disguisedDelimiters : List (Nat × Nat) :=
  [(0x2047, 0x2049), (0x2100, 0x2101), (0x2105, 0x2106), (0x2a74, 0x2a74), (0xfe13, 0xfe13),
    (0xfe16, 0xfe16), (0xfe55, 0xfe56), (0xfe5f, 0xfe5f), (0xfe6b, 0xfe6b), (0xff03, 0xff03),
    (0xff0f, 0xff0f), (0xff1a, 0xff1a), (0xff1f, 0xff20)]

/-- What may be asked of `logging`. -/
def logLevels : List String :=
  ["debug", "info", "warning", "error"]

/-- Checks options in order, given whether `logging` has been set, of which the first value
counts. -/
def checkOptions (isLogging : Bool) : List (List Char × List Char) → Except Fault Unit
  | [] => .ok ()
  | (option, value) :: rest =>
    if String.ofList option ≠ "logging" then .error (.unopened (.unknownOption option))
    else if isLogging ∨ String.ofList value ∈ logLevels then checkOptions true rest
    else .error (.unknownLogLevel value)

/-- Checks the address that a loopback's name is. -/
def check (a : Address) : Except Fault Unit :=
  if decide ('[' ∈ a.host) ≠ decide (']' ∈ a.host) then .error (.unopened .unpairedBracket)
  else if a.host.any (Text.inRanges disguisedDelimiters) then
    .error (.unopened (.disguisedDelimiter a.host))
  else checkOptions false a.options

end Address

end MotionEmulator
