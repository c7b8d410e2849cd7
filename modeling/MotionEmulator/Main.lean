import MotionEmulator.Startup

/-!
# The command

The program at a terminal. It reads the variables of the emulator and the file `.env` next to the
program, runs on virtual time, and prints what it reports, stamped from midnight on.
-/

namespace MotionEmulator

/-- The variables that the emulator reads. -/
def variableNames : List String :=
  ["SR6_DEVICE_COUNT", "SR6_FRAME_RATE", "SR6_BAUD_RATE", "SR6_LOG_COMMANDS",
    "SR6_SPEED_PERIOD_MS"]

/-- The variables that a file refers to. -/
def variablesOf (file : List Char) : List String :=
  (EnvFile.assignments file).flatMap fun a =>
    (a.value.map fun text => EnvFile.referredTo text.toList).getD []

/-- The variables that are set, as far as they matter. -/
def readEnvironment : IO Environment := do
  let path := (← IO.appDir) / ".env"
  let file ← (some <$> IO.FS.readFile path) <|> pure none
  let file := file.map String.toList
  let names := variableNames ++ (file.map variablesOf).getD []
  let vars ← names.filterMapM fun name => do
    let value ← IO.getEnv name
    return value.map fun v => (name, v)
  return Environment.load { vars } file

/-- How the program is called. -/
def usage : String :=
  "usage: emulator [-h] [--frames N] [--fps RATE] [--baud RATE] [--log-commands] port [port ...]"

/-- The most turns of a run at a terminal. -/
def turnLimit : Nat :=
  1000000000

/-- Runs the program and gives its exit status. -/
def runProgram (words : List String) : IO UInt32 := do
  match Startup.run words (← readEnvironment) 0 turnLimit with
  | .error ending =>
    (if ending = .help then IO.println else IO.eprintln) usage
    return ending.status.toUInt32
  | .ok report =>
    for line in report.lines {} do
      IO.println line
    match report.result with
    | .ok _ => return 0
    | .error cause =>
      IO.eprintln cause.message
      return 1

end MotionEmulator

def main (args : List String) : IO UInt32 :=
  MotionEmulator.runProgram args
