import MotionEmulator.Stream

/-!
# Scripted links

A scripted link delivers the chunks of a script, a fixed interval apart, and may break after a
set number of them. It stands in for a device. Every chunk is either still scripted or
delivered, and `ScriptedLink.chunks` lists both together in the order of the script.
-/

namespace MotionEmulator

/-- A link that plays a script. -/
structure ScriptedLink where
  scripted : List (List Char)
  delivered : List (List Char) := []
  /-- The number of delivered chunks at which the link breaks. -/
  failAfter : Option Int := none
  /-- The seconds after each chunk. -/
  interval : Binary64 := 0
  connected : Bool := true
  deriving DecidableEq

namespace ScriptedLink

/-- All chunks of the script so far, delivered or not. -/
def chunks (l : ScriptedLink) : List (List Char) :=
  l.delivered ++ l.scripted

/-- Adds a chunk to the end of the script. -/
def feed (l : ScriptedLink) (chunk : List Char) : ScriptedLink :=
  { l with scripted := l.scripted ++ [chunk] }

/-- Ends the stream before its next chunk. -/
def disconnect (l : ScriptedLink) : ScriptedLink :=
  { l with connected := false }

/-- Whether the link breaks instead of delivering. -/
def isBroken (l : ScriptedLink) : Bool :=
  l.failAfter.any fun limit => limit ≤ (l.delivered.length : Int)

def pull (l : ScriptedLink) (phase : Phase) : Pulled ScriptedLink (List Char) :=
  if phase = .handed then ⟨.pause l.interval, l, .looking, []⟩
  else
    match l.scripted with
    | [] => ⟨.finished none, l, .looking, []⟩
    | chunk :: rest =>
      if !l.connected then ⟨.finished none, l, .looking, []⟩
      else if l.isBroken then ⟨.finished (some .dropped), l.disconnect, .looking, []⟩
      else
        ⟨.chunk chunk, { l with scripted := rest, delivered := l.delivered ++ [chunk] },
          .handed, []⟩

/-- What a reader of the script does when its last chunk has come. -/
inductive Habit where
  /-- Reads to the end. -/
  | drain
  /-- Stops at a number of chunks. -/
  | take (count : Int)
  /-- Disconnects the link at a number of chunks and reads on. -/
  | disconnectAt (count : Int)
  /-- Feeds one more chunk at a number of chunks and reads on. -/
  | feedAt (count : Int) (chunk : List Char)

def Habit.reaction : Habit → Reading.Reaction ScriptedLink
  | drain => fun _ l => .done l false
  | take count => fun n l => .done l (n = count)
  | disconnectAt count => fun n l => .done (if n = count then l.disconnect else l) false
  | feedAt count chunk => fun n l => .done (if n = count then l.feed chunk else l) false

/-- A reading of the link from a time on. Each chunk takes two questions, one that may be fed on
the way included, and the end takes one. -/
def read (l : ScriptedLink) (habit : Habit) (time : Binary64) :
    Reading ScriptedLink (List Char) :=
  Reading.run pull habit.reaction (2 * l.scripted.length + 3) { source := l, time } .looking

end ScriptedLink

end MotionEmulator
