import Shortlink.Program

/-!
# The command line program

Collects the arguments, the environment, the configuration file and the input, runs the program on
them, prints what it prints and leaves with its exit code. There are no connections here, so every
request finds the network down.
-/

open Shortlink

def environmentNames : List String :=
  ["SHORTENER_SERVER_URL", "APP__SERVER_URL", "SHORTENER_NOTIFY_MS", "APP__NOTIFY_DURATION_MS",
    "SHORTENER_TIMEOUT_SECS", "APP__REQUEST_TIMEOUT_SECS"]

def readText (name : String) : IO (Option String) := do
  try return some (← IO.FS.readFile name) catch _ => return none

/-- Runs the program. The input is read only by a run that needs it. -/
def main (args : List String) : IO UInt32 := do
  let env ← environmentNames.mapM fun name => return (name, ← IO.getEnv name)
  let config := (Arguments.parse args).toOption.bind (·.config)
  let file := config.getD Settings.defaultFile
  let text ← readText file
  let surroundings (input : ByteArray) : Surroundings := {
    args
    env := fun name => (env.find? (·.1 == name)).bind (·.2)
    files := fun name => if name = file then text else none
    input := input.toList
    network := { up := false, replies := [] } }
  let task := (Program.start (surroundings .empty)).toOption.map (·.1)
  let stdin ← IO.getStdin
  let input ← if task = some .interactive then stdin.readBinToEnd else pure .empty
  let run := Program.run (surroundings input)
  IO.print (output run.trace)
  match run.errorLine with
  | some line => IO.eprintln ("Error: " ++ line)
  | none => pure ()
  return run.exitCode
