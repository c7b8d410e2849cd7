import MotionEmulator.Settings
import MotionEmulator.Text.Numeral

/-!
# The command line

One or more ports, and options before or after them. Options may be cut to a beginning that
fits no other one, take their value after an equals sign or as the next word, and count as often
as they occur, the last time for good. `--` ends the options. A negative number and a word with
a space in it are values and not options. All ports stand together.

`Arguments.read` goes over the words from left to right. It ends the program with a usage error
or, where help is asked for before any error, with the help.
-/

namespace MotionEmulator

/-- What the command line asks for. -/
structure Arguments where
  ports : List String := []
  frames : Option Int := none
  fps : Option Binary64 := none
  baud : Option Int := none
  logCommands : Bool := false
  deriving DecidableEq

/-- Why the command line ends the program at once. -/
inductive Ending where
  | help
  | usage
  deriving DecidableEq

/-- The status that an ending leaves. -/
def Ending.status : Ending → Nat
  | help => 0
  | usage => 2

namespace Arguments

/-- The options. -/
inductive Switch where
  | help
  | frames
  | fps
  | baud
  | logCommands
  deriving DecidableEq

/-- The full names of the options. -/
def switches : List (List Char × Switch) :=
  [("--help".toList, .help), ("--frames".toList, .frames), ("--fps".toList, .fps),
    ("--baud".toList, .baud), ("--log-commands".toList, .logCommands)]

/-- How a word of the command line is understood. -/
inductive Word where
  /-- A port or a value. -/
  | plain (text : List Char)
  /-- The word that ends the options. -/
  | separator
  /-- An option, with the value that follows its equals sign. -/
  | switch (which : Switch) (value : Option (List Char))
  /-- An option that does not exist. -/
  | unknown
  deriving DecidableEq

/-- A text before its first equals sign, and what follows the sign. -/
def splitEquals (text : List Char) : List Char × Option (List Char) :=
  (text.takeWhile (· ≠ '='), (text.dropWhile (· ≠ '=')).tail?)

/-- Whether a text is a negative number: a minus and digits, perhaps with a decimal point that
digits follow. A line feed may end it. -/
def isNegativeNumber (text : List Char) : Bool :=
  let isDigit := fun c => (Text.digitValue? c).isSome
  let text := if text.getLast? = some '\n' then text.dropLast else text
  match text with
  | '-' :: rest =>
    match rest.dropWhile isDigit with
    | [] => !rest.isEmpty
    | '.' :: fraction => !fraction.isEmpty && fraction.all isDigit
    | _ => false
  | _ => false

/-- What follows `-h` within its word: more options of one letter, of which there is only `h`.
Anything else there is misuse, as is any value for help. -/
def readAfterHelp (text : List Char) : Word :=
  .switch .help (if text.all (· = 'h') then none else some text)

/-- A word after a single hyphen. Of the options of one letter only `-h` exists; an equals sign
right after it is no misuse if more options follow. -/
def readShort (text : List Char) : Word :=
  match text with
  | ['-', 'h', '='] => .switch .help (some [])
  | '-' :: 'h' :: '=' :: rest => readAfterHelp rest
  | '-' :: 'h' :: rest => readAfterHelp rest
  | _ => if isNegativeNumber text ∨ ' ' ∈ text then .plain text else .unknown

/-- A word after two hyphens: the option that it is a beginning of, if there is only one. -/
def readLong (text : List Char) : Except Ending Word :=
  let (name, value) := splitEquals text
  match switches.find? fun s => s.1 = text with
  | some s => .ok (.switch s.2 none)
  | none =>
    match switches.find? fun s => s.1 = name with
    | some s => .ok (.switch s.2 value)
    | none =>
      match switches.filter fun s => name.isPrefixOf s.1 with
      | [s] => .ok (.switch s.2 value)
      | [] => .ok (if ' ' ∈ text then .plain text else .unknown)
      | _ => .error .usage

/-- How a word before the separator is understood. -/
def readWord (text : List Char) : Except Ending Word :=
  match text with
  | '-' :: '-' :: _ => readLong text
  | ['-'] => .ok (.plain text)
  | '-' :: _ => .ok (readShort text)
  | _ => .ok (.plain text)

/-- How all words are understood. -/
def readWords : List (List Char) → Except Ending (List Word)
  | [] => .ok []
  | text :: rest =>
    if text = ['-', '-'] then .ok (.separator :: rest.map Word.plain)
    else do
      let word ← readWord text
      let words ← readWords rest
      return word :: words

/-- How far the ports have been read: they are the first words that stand together. -/
inductive PortGroup where
  | ahead
  | within
  | behind
  deriving DecidableEq

/-- What has been read of the command line. -/
structure Progress where
  arguments : Arguments := {}
  group : PortGroup := .ahead
  /-- Whether there was a word that belongs to nothing. -/
  stray : Bool := false
  deriving DecidableEq

namespace Progress

/-- A word that is no option and no option's value. -/
def plain (p : Progress) (text : List Char) : Progress :=
  if p.group = .behind then { p with stray := true }
  else
    { p with
      group := .within
      arguments := { p.arguments with ports := p.arguments.ports ++ [String.ofList text] } }

/-- The word that ends the options. -/
def separator (p : Progress) : Progress :=
  if p.group = .behind then { p with stray := true } else p

/-- An option ends the ports. -/
def afterSwitch (p : Progress) : Progress :=
  if p.group = .within then { p with group := .behind } else p

/-- An option with its value. -/
def setValue (p : Progress) (which : Switch) (value : List Char) : Except Ending Progress :=
  let a := p.arguments
  match which with
  | .frames =>
    match Text.readInt? value with
    | some n => .ok { p with arguments := { a with frames := some n } }
    | none => .error .usage
  | .baud =>
    match Text.readInt? value with
    | some n => .ok { p with arguments := { a with baud := some n } }
    | none => .error .usage
  | .fps =>
    match Text.readReal? value with
    | some x => .ok { p with arguments := { a with fps := some x } }
    | none => .error .usage
  | .help | .logCommands => .error .usage

end Progress

/-- Reads words from left to right. -/
def readFrom : Progress → List Word → Except Ending Progress
  | p, [] => .ok p
  | p, .plain text :: rest => readFrom (p.plain text) rest
  | p, .separator :: rest => readFrom p.separator rest
  | p, .unknown :: rest => readFrom { p.afterSwitch with stray := true } rest
  | p, .switch which (some value) :: rest => do
    let p ← p.afterSwitch.setValue which value
    readFrom p rest
  | _, .switch .help none :: _ => .error .help
  | p, .switch .logCommands none :: rest =>
    let p := p.afterSwitch
    readFrom { p with arguments := { p.arguments with logCommands := true } } rest
  | p, .switch which none :: .plain value :: rest => do
    let p ← p.afterSwitch.setValue which value
    readFrom p rest
  | _, .switch _ none :: _ => .error .usage

/-- What the words of the command line ask for. -/
def read (words : List String) : Except Ending Arguments := do
  let words ← readWords (words.map String.toList)
  let p ← readFrom {} words
  if p.stray ∨ p.arguments.ports = [] then .error .usage else .ok p.arguments

/-- Settings as the command line changes them. Each port gets a device. -/
def applyTo (a : Arguments) (s : Settings) : Settings :=
  { s with
    deviceCount := max s.deviceCount a.ports.length
    frameRate := a.fps.getD s.frameRate
    baudRate := a.baud.getD s.baudRate
    logCommands := a.logCommands || s.logCommands }

end Arguments

end MotionEmulator
