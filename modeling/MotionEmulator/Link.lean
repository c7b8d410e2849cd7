import MotionEmulator.Link.Scripted
import MotionEmulator.Link.Serial

/-!
# Links

What a device takes its text from: a scripted link or a serial one.
-/

namespace MotionEmulator

/-- A source of text for a device. -/
inductive Link where
  | scripted (link : ScriptedLink)
  | serial (link : SerialLink)
  deriving DecidableEq

namespace Link

def isConnected : Link → Bool
  | scripted l => l.connected
  | serial l => l.connected

def disconnect : Link → Outcome Link Unit
  | scripted l => .done (.scripted l.disconnect) ()
  | serial l => l.disconnect.within .serial

def pull (link : Link) (phase : Phase) : Pulled Link (List Char) :=
  match link with
  | scripted l =>
    let p := l.pull phase
    ⟨p.pull, .scripted p.source, p.phase, p.entries⟩
  | serial l =>
    let p := l.pull phase
    ⟨p.pull, .serial p.source, p.phase, p.entries⟩

end Link

end MotionEmulator
