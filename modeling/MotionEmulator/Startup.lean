import MotionEmulator.Arguments
import MotionEmulator.Environment
import MotionEmulator.Service

/-!
# Starting up

`Startup.run` is the program: it reads the command line, takes the settings from the environment
and the command line, prints a heading, gives each port its device and serves them. The port
`mock` is a scripted link with a demonstration. Any other port is opened, by an opener of its own
place, since opening one name twice need not come out the same, and the program carries on with a
warning where there is no connection.
-/

namespace MotionEmulator.Startup

/-- The port that stands for the demonstration. -/
def mockPort : String :=
  "mock"

/-- A sweep of the stroke with a slow twist, and the way back at limited speed. -/
def demonstration : List String :=
  ["L00000 R05000\n", "L09999I1000 R07500I2000\n", "L00000S400 R0", "2500I2000\n",
    "L05000I500 L19999I500 L20000I500\n"]

/-- The link that plays the demonstration, a chunk a second. -/
def demonstrationLink : ScriptedLink :=
  { scripted := demonstration.map String.toList, interval := 1 }

/-- The heading of the program's output. -/
def heading (settings : Settings) : List String :=
  let rule := String.ofList (List.replicate 50 '=')
  [rule, "  SR6 Motion Emulator", rule, "  Devices: " ++ toString settings.deviceCount,
    "  Frame rate: " ++ settings.frameRate.wholeText ++ " fps", ""]

/-- Gives a port its device. A port to which there is no connection is warned of. -/
def bindPort (opener : Nat → Port.Opener) (e : Emulator) (place : Nat) (port : String) :
    Outcome Emulator Unit :=
  if port = mockPort then .done (e.attachDevice place (.scripted demonstrationLink)) ()
  else
    let o := e.connectDevice place port (opener place)
    match o.result with
    | .ok () => o
    | .error cause =>
      if cause.isConnection then
        .done o.state ()
          (o.entries ++ [⟨.warn, Emulator.deviceName place ++ ": " ++ cause.message, []⟩])
      else o

/-- Gives ports their devices, from a place on. -/
def bindPorts (opener : Nat → Port.Opener) :
    Nat → List String → Emulator → Outcome Emulator Unit
  | _, [], e => .done e ()
  | place, port :: rest, e =>
    (bindPort opener e place port).andThen fun e _ => bindPorts opener (place + 1) rest e

/-- How a run of the program came out. -/
structure Report where
  /-- None if the run has not ended in the turns that it had. -/
  result : Except Fault (Option Unit)
  heading : List String
  entries : List Entry
  /-- The virtual time of the end. -/
  time : Binary64

/-- The lines that a run prints. -/
def Report.lines (r : Report) (time : TimeOfDay) : List String :=
  r.heading ++ r.entries.flatMap fun e => e.lines time

/-- The settings of a run, from the environment and the command line. -/
def settings (arguments : Arguments) (env : Environment) : Except Fault Settings :=
  env.settings.map arguments.applyTo

/-- Serves the ports of the command line. -/
def serve (opener : Nat → Port.Opener) (arguments : Arguments) (s : Settings) (time : Binary64)
    (fuel : Nat) : Report :=
  let heading := heading s
  match Emulator.defaultRenderer s with
  | .error cause => { result := .error cause, heading, entries := [], time }
  | .ok renderer =>
    let bound := bindPorts opener 0 arguments.ports (Emulator.fresh s renderer time)
    match bound.result with
    | .error cause => { result := .error cause, heading, entries := bound.entries, time }
    | .ok () =>
      let o := bound.state.serve arguments.frames fuel
      { result := o.result
        heading
        entries := bound.entries ++ o.entries
        time := o.state.time }

/-- The program, from a virtual time on and in at most so many turns. -/
def run (words : List String) (env : Environment) (time : Binary64) (fuel : Nat)
    (opener : Nat → Port.Opener := fun _ => Port.ofName) : Except Ending Report := do
  let arguments ← Arguments.read words
  match settings arguments env with
  | .error cause => return { result := .error cause, heading := [], entries := [], time }
  | .ok s => return serve opener arguments s time fuel

end MotionEmulator.Startup
