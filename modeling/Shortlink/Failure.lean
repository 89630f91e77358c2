/-!
# Failures

Why an action did not succeed. Each failure has two wordings: `message` for a log or a startup
error, and `userMessage` for a notification.
-/

namespace Shortlink

/-- Why an action did not succeed. -/
inductive Failure
  /-- The input was refused before anything was sent. -/
  | validation (message : String)
  /-- The server answered, but not with what was asked for. -/
  | remote (status : Option UInt16) (message : String)
  | network (message : String)
  | clipboard (message : String)
  | config (message : String)
deriving DecidableEq, Repr

/-- The kinds of failure. -/
inductive FailureKind
  | validation
  | remote
  | network
  | clipboard
  | config
deriving DecidableEq, Repr

namespace FailureKind

def name : FailureKind → String
  | .validation => "validation"
  | .remote => "remote"
  | .network => "network"
  | .clipboard => "clipboard"
  | .config => "config"

def all : List FailureKind := [.validation, .remote, .network, .clipboard, .config]

end FailureKind

namespace Failure

def kind : Failure → FailureKind
  | .validation _ => .validation
  | .remote _ _ => .remote
  | .network _ => .network
  | .clipboard _ => .clipboard
  | .config _ => .config

/-- A status as a failure is written with it. -/
def statusText : Option UInt16 → String
  | some status => "HTTP " ++ toString status.toNat
  | none => "no status"

/-- The failure as it is written where errors are. -/
def message : Failure → String
  | .validation m => m
  | .remote status m => "server rejected the request (" ++ statusText status ++ "): " ++ m
  | .network m => "network error: " ++ m
  | .clipboard m => "clipboard unavailable: " ++ m
  | .config m => "invalid client configuration: " ++ m

/-- The failure as the user is told of it. -/
def userMessage : Failure → String
  | .validation m => m
  | .remote _ m => if m.isEmpty then "Unable to shorten URL." else "Error: " ++ m
  | .network m => "Error: " ++ m
  | .clipboard m => "Failed to copy: " ++ m
  | .config m => "Configuration error: " ++ m

end Failure

end Shortlink
