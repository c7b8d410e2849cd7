import MotionEmulator.ReadLoop

/-!
# The emulator

An emulator owns a number of devices and shows them to one renderer, frame by frame, on one
virtual time in seconds. Time stands still while anything is done and passes in pauses only.
-/

namespace MotionEmulator

/-- Several devices with their renderer. -/
structure Emulator where
  settings : Settings
  renderer : Renderer
  devices : List Device
  frameCount : Nat := 0
  /-- The virtual time in seconds. -/
  time : Binary64 := 0
  deriving DecidableEq

namespace Emulator

/-- The name of the device at a place. -/
def deviceName (place : Nat) : String :=
  "device" ++ toString place

/-- The renderer of an emulator that is given none: about one log entry a second. -/
def defaultRenderer (settings : Settings) : Except Fault Renderer :=
  (settings.frameRate.truncate.mapError Fault.nonFinite).map Renderer.every

/-- An emulator whose devices are all at rest. -/
def fresh (settings : Settings) (renderer : Renderer) (time : Binary64) : Emulator :=
  { settings
    renderer
    devices := (List.range settings.deviceCount.toNat).map fun i =>
      Device.fresh settings (deviceName i)
    time }

/-- The place of the device of a number. -/
def place (e : Emulator) (index : Int) : Except Fault Nat :=
  if 0 ≤ index ∧ index < e.devices.length then .ok index.toNat
  else .error (.noSuchDevice index e.devices.length)

/-- Applies an operation to the device at a place, if there is one. -/
def onDevice (e : Emulator) (place : Nat) (f : Device → Outcome Device Unit) :
    Outcome Emulator Unit :=
  match e.devices[place]? with
  | none => .done e ()
  | some d => (f d).within fun d => { e with devices := e.devices.set place d }

/-- Opens a port for the device of a number. -/
def connectDevice (e : Emulator) (index : Int) (port : String)
    (opener : Port.Opener := Port.ofName) : Outcome Emulator Unit :=
  match e.place index with
  | .error cause => .fault e cause
  | .ok place =>
    (e.onDevice place fun d => d.connect port opener).andThen fun e _ =>
      .done e () [⟨.ok, deviceName place ++ " connected", [("port", .text port)]⟩]

/-- Gives the device at a place a link. -/
def attachDevice (e : Emulator) (place : Nat) (link : Link) : Emulator :=
  { e with devices := e.devices.modify place fun d => d.attach link }

/-- Shows devices in order. A device that cannot be shown stops it. -/
def renderAll (time : Binary64) :
    List Device → Renderer → Outcome Renderer Unit
  | [], r => .done r ()
  | d :: rest, r =>
    match d.frame time with
    | .error cause => .fault r cause
    | .ok f =>
      let (r, entries) := r.render f
      (Outcome.done r () entries).andThen fun r _ => renderAll time rest r

/-- Shows every device once. -/
def frame (e : Emulator) : Outcome Emulator Unit :=
  ((renderAll e.time e.devices e.renderer).within fun renderer => { e with renderer }).andThen
    fun e _ => .done { e with frameCount := e.frameCount + 1 } ()

/-- Lets a pause pass. -/
def pause (e : Emulator) (seconds : Binary64) : Emulator :=
  { e with time := afterPause e.time seconds }

/-- One frame and the pause after it. -/
def frameAndPause (e : Emulator) : Outcome Emulator Unit :=
  e.frame.andThen fun e _ =>
    match e.settings.frameInterval with
    | .error cause => .fault e cause
    | .ok seconds => .done (e.pause seconds) ()

/-- A number of frames, each followed by a pause. -/
def run : Nat → Emulator → Outcome Emulator Unit
  | 0, e => .done e ()
  | frames + 1, e => e.frameAndPause.andThen fun e _ => run frames e

end Emulator

end MotionEmulator
