import Shortlink.Arguments

/-!
# A run of the program

From the command line, the environment, the files and the input to what is printed and the exit
code. A run starts when its settings are known and there is a server for them; otherwise an error
line tells why and nothing else happens.
-/

namespace Shortlink

/-- What a run is given. -/
structure Surroundings where
  args : List String
  env : String → Option String
  files : String → Option String
  input : List UInt8
  network : Network

/-- Why a run does not start. -/
inductive StartError
  | usage (e : UsageError)
  | settings (e : Settings.LoadError)
  | server (f : Failure)
deriving DecidableEq, Repr

/-- The error line that is printed when a run is refused, if there is one. -/
def StartError.line? : StartError → Option String
  | .usage _ => none
  | .settings e => some e.message
  | .server _ => some "failed to set up the server client"

/-- The exit code of a run that is refused. -/
def StartError.exitCode : StartError → UInt32
  | .usage e => e.exitCode
  | .settings _ | .server _ => 1

/-- What comes of a run. -/
structure Run where
  exitCode : UInt32
  trace : List Effect := []
  errorLine : Option String := none

namespace Program

/-- The session in which settings put a run, over a network. -/
def session [Url.DomainRules] (settings : Settings) (network : Network) :
    Except Failure Session := do
  let server ← Server.ofUrl settings.serverUrl
  return { server, network, notifier := { duration := settings.notifyMs.toNat } }

/-- The settings of a run: those of the command line come last. -/
def settings (s : Surroundings) (a : Arguments) : Except Settings.LoadError Settings :=
  (Settings.load s.files s.env a.config).map (·.overlay a.settings)

/-- The task of a run and the session for it. -/
def start [Url.DomainRules] (s : Surroundings) : Except StartError (Task × Session) := do
  let a ← (Arguments.parse s.args).mapError .usage
  let settings ← (settings s a).mapError .settings
  let session ← (session settings s.network).mapError .server
  return (a.task.getD .interactive, session)

/-- Carries out a run: what it prints and how it ends. -/
def run [Url.DomainRules] (s : Surroundings) : Run :=
  match start s with
  | .error e => { exitCode := e.exitCode, errorLine := e.line? }
  | .ok (task, session) =>
    let r := (task.run s.input).run session
    match r.value with
    | .ok succeeded => { exitCode := if succeeded then 0 else 1, trace := r.trace }
    | .error e => { exitCode := 1, trace := r.trace, errorLine := some e.message }

end Program

end Shortlink
