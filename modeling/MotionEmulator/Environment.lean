import MotionEmulator.EnvFile.Reader
import MotionEmulator.Settings
import MotionEmulator.Text.LowerCase
import MotionEmulator.Text.Numeral

/-!
# The environment

Settings come from environment variables, and an environment file may add variables that are
not set yet; a reader says which. The file is loaded once: `Environment.load` changes nothing the
second time. A variable that does not read as what is wanted counts as not set.
-/

namespace MotionEmulator

/-- The variables that are set, and whether the environment file has had its turn. -/
structure Environment where
  vars : List (String × String) := []
  fileLoaded : Bool := false

namespace Environment

/-- The value of a variable. -/
def get? (env : Environment) (name : String) : Option String :=
  (env.vars.find? fun var => var.1 = name).map Prod.snd

/-- Sets a variable, whatever it was set to before. -/
def set (env : Environment) (name value : String) : Environment :=
  { env with vars := (name, value) :: env.vars.filter fun var => var.1 ≠ name }

/-- Sets variables, one after the other. -/
def setAll (env : Environment) (puts : List (String × String)) : Environment :=
  puts.foldl (fun env (name, value) => env.set name value) env

/-- Loads the environment file, of which only the first attempt counts. There may be none. -/
def load (env : Environment) (file : Option (List Char))
    (reader : EnvFile.Reader := EnvFile.reader) : Environment :=
  if env.fileLoaded then env
  else
    let env := { env with fileLoaded := true }
    match file with
    | none => env
    | some text => env.setAll (reader.puts env.get? text)

/-- A variable as a truth value. -/
def bool (env : Environment) (name : String) (default : Bool) : Bool :=
  match env.get? name with
  | none => default
  | some raw =>
    match String.ofList (Text.lowerCase (Text.strip raw.toList)) with
    | "1" | "true" | "yes" | "on" => true
    | "0" | "false" | "no" | "off" => false
    | _ => default

/-- A variable as an integer. -/
def int (env : Environment) (name : String) (default : Int) : Int :=
  ((env.get? name).bind fun raw => Text.readInt? raw.toList).getD default

/-- A variable as a real number. -/
def real (env : Environment) (name : String) (default : Binary64) : Binary64 :=
  ((env.get? name).bind fun raw => Text.readReal? raw.toList).getD default

/-- The settings that the environment asks for. -/
def settings (env : Environment) : Except Fault Settings :=
  let base : Settings := {}
  Settings.check
    { deviceCount := env.int "SR6_DEVICE_COUNT" base.deviceCount
      frameRate := env.real "SR6_FRAME_RATE" base.frameRate
      baudRate := env.int "SR6_BAUD_RATE" base.baudRate
      logCommands := env.bool "SR6_LOG_COMMANDS" base.logCommands
      period := env.real "SR6_SPEED_PERIOD_MS" base.period }

end Environment

end MotionEmulator
