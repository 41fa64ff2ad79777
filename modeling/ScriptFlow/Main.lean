import ScriptFlow.Worker.CommandLine

/-!
# The worker program

Reads the surroundings, lets `CommandLine.run` decide, and shows what it says: lines of the log on standard error, all else on standard output. The
program brings no engine of its own, so a connection is refused.
-/

open ScriptFlow

/-- The variables that a configuration looks at. -/
def settingNames : List String :=
  ["STARWORKER_CONFIG", "STARWORKER_LOCATION", "STARWORKER_DOMAIN", "STARWORKER_TASK_LIST", "STARWORKER_ACTIVITY_TIMEOUT",
   "STARWORKER_HEARTBEAT_TIMEOUT", "STARWORKER_MAX_CONCURRENT_ACTIVITIES", "STARWORKER_PLUGINS"]

/-- An engine that nobody can reach. -/
def unreachable : EnginePlan := { connectError := some (.error .runtime "no engine can be reached") }

/-- The contents of a file, if it can be read. -/
def readFile? (path : String) : IO (Option (String × ByteArray)) := do
  try
    return some (path, ← IO.FS.readBinFile path)
  catch _ => return none

def main (args : List String) : IO UInt32 := do
  let settings ← settingNames.filterMapM fun name => do return (← IO.getEnv name).map fun value => (name, value)
  let named := match CommandLine.read args with
    | .work (some path) _ => [path]
    | _ => (settings.lookup "STARWORKER_CONFIG").toList
  let files ← named.filterMapM readFile?
  let report := CommandLine.run { settings := settings, files := { files := files, directories := [] } } unreachable args
  for line in report.seen.log do
    IO.eprintln (line.level.name ++ " - " ++ line.text)
  IO.print report.printed
  match report.exit with
  | .ok code => return code.toUInt32
  | .error e => do
    IO.eprintln (e.name ++ ": " ++ e.message)
    return 1
