import MotionEmulator.Binary64.Shortest
import MotionEmulator.Text.Lines
import MotionEmulator.Text.Quoted

/-!
# The journal

What the emulator reports is a list of entries, each of a level, with a message and perhaps
some named values. `Entry.text` is the line of an entry at a time of day. Values are written so
that they can be told apart: texts are quoted, numbers have their fewest digits.
-/

namespace MotionEmulator

/-- What an entry is about. -/
inductive Level where
  /-- Errors and failures. -/
  | critical
  /-- Unexpected behaviour. -/
  | warn
  /-- Confirmations of success. -/
  | ok
  /-- General information. -/
  | info
  /-- What goes over a serial line. -/
  | serial
  /-- The commands of a line. -/
  | command
  /-- Positions of the channels. -/
  | axis
  deriving DecidableEq

/-- The mark of a level, filled up to one width. -/
def Level.mark : Level → String
  | critical => "⚡ CRITICAL"
  | warn => "⚠️  WARN    "
  | ok => "✓  OK      "
  | info => "ℹ  INFO    "
  | serial => "⬡  SERIAL  "
  | command => "→  CMD     "
  | axis => "📍 AXIS    "

/-- A value that an entry names. -/
inductive Value where
  | nothing
  | bool (b : Bool)
  | int (n : Int)
  | real (x : Binary64)
  | text (s : String)
  | list (items : List Value)
  | record (fields : List (String × Value))
  deriving Inhabited

/-- Puts a field behind the others, or in the place of the one of the same name. -/
def insertField (fields : List (String × Value)) (name : String) (value : Value) :
    List (String × Value) :=
  match fields with
  | [] => [(name, value)]
  | field :: rest =>
    if field.1 = name then (name, value) :: rest else field :: insertField rest name value

/-- Fields in the order of their first mention, each with its last value. -/
def fieldsOfPairs (pairs : List (String × Value)) : List (String × Value) :=
  pairs.foldl (fun fields pair => insertField fields pair.1 pair.2) []

/-- Pieces with a comma between them. -/
def commaSeparated (pieces : List String) : String :=
  String.intercalate ", " pieces

mutual

/-- A value on one line. -/
def Value.write : Value → String
  | .nothing => "None"
  | .bool b => if b then "True" else "False"
  | .int n => toString n
  | .real x => x.text
  | .text s => Text.quotedString s
  | .list items => "[" ++ commaSeparated (Value.writeItems items) ++ "]"
  | .record fields => "\x7b" ++ commaSeparated (Value.writeFields fields) ++ "\x7d"

def Value.writeItems : List Value → List String
  | [] => []
  | value :: rest => value.write :: Value.writeItems rest

def Value.writeFields : List (String × Value) → List String
  | [] => []
  | (name, value) :: rest =>
    (Text.quotedString name ++ ": " ++ value.write) :: Value.writeFields rest

end

/-- A time of day. -/
structure TimeOfDay where
  hour : Nat := 0
  minute : Nat := 0
  second : Nat := 0
  microsecond : Nat := 0

/-- A time of day in milliseconds, what is left of them dropped. -/
def TimeOfDay.text (t : TimeOfDay) : String :=
  let two := fun n => String.ofList (Decimal.padded 2 n)
  two t.hour ++ ":" ++ two t.minute ++ ":" ++ two t.second ++ "."
    ++ String.ofList (Decimal.padded 3 (t.microsecond / 1000))

/-- One report. -/
structure Entry where
  level : Level
  message : String
  data : List (String × Value) := []

namespace Entry

/-- The line of an entry. -/
def text (e : Entry) (time : TimeOfDay) : String :=
  "[" ++ time.text ++ "] " ++ e.level.mark ++ " | " ++ e.message
    ++ (if e.data.isEmpty then "" else " | " ++ (Value.record e.data).write)

/-- The lines that an entry takes up on a screen: more than one if its message has several. -/
def lines (e : Entry) (time : TimeOfDay) : List String :=
  (Text.lines (e.text time).toList).map String.ofList

/-- The entry of text that went over a serial line, in the direction of the arrow. -/
def overSerial (arrow : String) (text : List Char) : Entry :=
  ⟨.serial, arrow ++ " " ++ String.ofList (Text.quoted text), []⟩

end Entry

end MotionEmulator
