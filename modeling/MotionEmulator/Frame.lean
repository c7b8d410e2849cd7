import MotionEmulator.Receiver

/-!
# Frames and renderers

A frame is what a renderer sees of one device at one time: the positions of its channels and
their scales. A renderer keeps the frames, or it logs every so many frames of each device, the
first one included. `Renderer.render` counts the frames of every device name on its own.
-/

namespace MotionEmulator

/-- One device at one time. -/
structure Frame where
  /-- The time in seconds. -/
  time : Binary64
  device : String
  /-- The positions, as fractions of the whole range. -/
  axes : PerChannel Binary64
  scale : PerChannel Binary64
  deriving DecidableEq

/-- The number of frames that a device name has had. -/
def frameCountOf (counts : List (String × Nat)) (device : String) : Nat :=
  ((counts.find? fun entry => entry.1 = device).map Prod.snd).getD 0

/-- One more frame for a device name. -/
def countFrame (counts : List (String × Nat)) (device : String) : List (String × Nat) :=
  match counts with
  | [] => [(device, 1)]
  | entry :: rest =>
    if entry.1 = device then (device, entry.2 + 1) :: rest else entry :: countFrame rest device

/-- What is done with frames. -/
inductive Renderer where
  /-- They are kept. -/
  | recording (frames : Array Frame)
  /-- One in `every` is logged; `counts` holds the number of frames so far. -/
  | logging (every : Nat) (counts : List (String × Nat))
  deriving DecidableEq

namespace Renderer

/-- How many frames lie between two log entries where nothing else is asked for. -/
def defaultInterval : Int :=
  60

/-- A renderer that logs every so many frames, and every one if the number is not positive. -/
def every (n : Int) : Renderer :=
  .logging (max 1 n).toNat []

/-- The report of a frame: the scaled positions to four decimal places. -/
def entryOf (f : Frame) : Entry :=
  ⟨.axis, f.device,
    Channel.all.map fun c =>
      (c.name, .real ((f.axes.get c * f.scale.get c).roundedTo 4))⟩

/-- Shows a frame. -/
def render (r : Renderer) (f : Frame) : Renderer × List Entry :=
  match r with
  | recording frames => (.recording (frames.push f), [])
  | logging every counts =>
    (.logging every (countFrame counts f.device),
      if frameCountOf counts f.device % every = 0 then [entryOf f] else [])

end Renderer

end MotionEmulator
