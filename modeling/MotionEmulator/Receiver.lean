import MotionEmulator.Axis
import MotionEmulator.Text.Lines
import MotionEmulator.Token

/-!
# Receivers

A receiver owns the six axes of a device and the text that has not yet made up a line.
`Receiver.write` takes text in whatever pieces it arrives, cuts it after every line feed and
executes each complete line at the time of the piece that completed it. A line is executed
command by command; what is no command on it changes nothing.
-/

namespace MotionEmulator

/-- A piece of a stream. Only text is of use to a receiver. -/
inductive Chunk where
  | text (chars : List Char)
  | other
  deriving DecidableEq

/-- The axes of a device and its unfinished line. -/
structure Receiver where
  axes : PerChannel Axis
  pending : List Char := []
  /-- Whether each line with a command on it is reported. -/
  logCommands : Bool := false
  deriving DecidableEq

/-- Executes one command: its channel starts a move, the others do not notice. -/
def applyCommand (now : Binary64) (c : Command) (axes : PerChannel Axis) :
    Outcome (PerChannel Axis) Unit :=
  ((axes.get c.channel).moveTo (.whole c.target) c.kind c.param now).within (axes.set c.channel)

/-- Executes commands in order at one time. A fault leaves the later ones undone. -/
def applyCommands (now : Binary64) :
    List Command → PerChannel Axis → Outcome (PerChannel Axis) Unit
  | [], axes => .done axes ()
  | c :: rest, axes => (applyCommand now c axes).andThen fun axes _ => applyCommands now rest axes

/-- The report of a line: its commands in canonical form. -/
def commandEntry (commands : List Command) : Entry :=
  ⟨.command, String.ofList (Command.wireLine commands), []⟩

/-- What is reported of a line with these commands: nothing unless it is asked for and there are
commands. -/
def commandEntries (logged : Bool) (commands : List Command) : List Entry :=
  if logged ∧ commands ≠ [] then [commandEntry commands] else []

namespace Receiver

/-- A receiver with all axes at rest. -/
def fresh (period : Binary64) (logCommands : Bool) : Receiver :=
  { axes := PerChannel.ofFn fun _ => Axis.fresh period, logCommands }

/-- Executes one line. -/
def execute (r : Receiver) (line : List Char) (now : Binary64) : Outcome Receiver Unit :=
  let commands := Command.ofLine line
  (Outcome.done r () (commandEntries r.logCommands commands)).andThen fun r _ =>
    (applyCommands now commands r.axes).within fun axes => { r with axes }

/-- Executes lines in order. -/
def executeAll (now : Binary64) : List (List Char) → Receiver → Outcome Receiver Unit
  | [], r => .done r ()
  | line :: rest, r => (r.execute line now).andThen fun r _ => executeAll now rest r

/-- Takes a piece of the stream. -/
def write (r : Receiver) (chunk : Chunk) (now : Binary64) : Outcome Receiver Unit :=
  match chunk with
  | .other => .done r ()
  | .text chars =>
    let cut := Text.cutLines (r.pending ++ chars)
    (executeAll now cut.1 { r with pending := [] }).andThen fun r _ =>
      .done { r with pending := cut.2 } ()

/-- The positions of all channels at a time. -/
def positions (r : Receiver) (now : Binary64) : Except Fault (PerChannel Int) :=
  r.axes.mapM fun a => a.resolved now

/-- The positions of all channels at a time, as fractions of the whole range. -/
def fractions (r : Receiver) (now : Binary64) : Except Fault (PerChannel Binary64) :=
  r.axes.mapM fun a => a.fraction now

end Receiver

end MotionEmulator
