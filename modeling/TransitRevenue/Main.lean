import TransitRevenue.Command.Run
import Std.Time.DateTime.Timestamp
/-!
The command-line program: it gathers what a run needs from the process (the arguments, the
environment variables the configuration consults, the files it may read from the working
directory, and the time), runs the command line, prints what it printed, and exits with its
status. The document store starts empty, and the broker reports every message delivered. A
failure that escapes is reported on the error stream with status 1.
-/

namespace TransitRevenue.Program

/-- The environment variables the configuration and the help layout consult. -/
def consulted : List String :=
  ["FY_CONFIG_FILE", "MONGO_URL", "MONGO_DB_NAME", "KAFKA_BOOTSTRAP_SERVERS", "FY_SETTINGS_FILE",
   "FY_LOG_LEVEL", "COLUMNS"] ++
  (AppConfig.fieldNames.flatMap fun n => [n, n.toUpper])

/-- The values of the consulted environment variables that are set. -/
def environment : IO (List (String × String)) :=
  consulted.filterMapM fun n => do
    return (← IO.getEnv n).map (n, ·)

/-- The text of a file, if it can be read. -/
def readText? (path : String) : IO (Option String) :=
  try
    return some (← IO.FS.readFile path)
  catch _ =>
    return none

/-- The values that follow an option in the arguments, as `--name value` or `--name=value`. -/
def valuesAfter (name : String) : List String → List String
  | a :: b :: rest =>
    if a == name then b :: valuesAfter name rest
    else if a.startsWith (name ++ "=") then (a.drop (name.length + 1)).toString :: valuesAfter name (b :: rest)
    else valuesAfter name (b :: rest)
  | [a] => if a.startsWith (name ++ "=") then [(a.drop (name.length + 1)).toString] else []
  | [] => []

/-- The files a run may read, as far as the arguments and environment tell. -/
def wanted (args : List String) (env : List (String × String)) : List String :=
  valuesAfter "--config" args ++ valuesAfter "--validate-file" args ++
    ((env.lookup "FY_CONFIG_FILE").toList ++ (env.lookup "FY_SETTINGS_FILE").toList) ++
    ["config.yaml", ".env", "settings.yaml"]

/-- Read the files that exist among `paths`. -/
def readAll (paths : List String) : IO (List (String × String)) :=
  paths.eraseDups.filterMapM fun p => do
    return (← readText? p).map (p, ·)

end TransitRevenue.Program

open TransitRevenue in
/-- Run the command line on the process's arguments. -/
def main (args : List String) : IO UInt32 := do
  let environ ← Program.environment
  let files ← Program.readAll (Program.wanted args environ)
  let host : Host := { files, environ }
  -- the settings file named by the configuration, once the configuration is known
  let configPath := match Command.readCommandLine 80 args with
    | .ok path _ _ => path
    | _ => none
  let host ← match loadConfig host configPath with
    | .ok config =>
      if files.any (·.1 == config.settingsFile) then pure host
      else do
        let more ← Program.readAll [config.settingsFile]
        pure { host with files := files ++ more }
    | .error _ => pure host
  let nanos := (← Std.Time.Timestamp.now).toNanosecondsSinceUnixEpoch.val
  let clock := Moment.ofInstant (nanos / 1000) 0
  match (Command.run { args, host, clock }).ending with
  | .exit code stdout =>
    IO.print stdout
    return code.toUInt32
  | .escape fault =>
    IO.eprintln fault.message
    return 1
