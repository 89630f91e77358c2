import Shortlink.Shell

/-!
# Tasks

What a run of the program is to do: one action, or the shell. A task tells whether the action itself
succeeded; the notification has told the user why if it did not.
-/

namespace Shortlink

/-- What a run is to do. -/
inductive Task
  | count
  | shorten (url : String)
  | delete (key : Key)
  | resolve (key : Key)
  | interactive
deriving DecidableEq, Repr

/-- Carries out a task, with an input for the shell. -/
def Task.run (input : List UInt8) : Task → Action (Except Shell.InputError Bool)
  | .count => do
    let _ ← Session.refreshCount
    return .ok true
  | .shorten url => return .ok (← Session.shorten url).isSome
  | .delete key => return .ok ((← Session.delete key) != .failed)
  | .resolve key => return .ok (← Session.resolve key).isSome
  | .interactive => return (← Shell.run input).map fun _ => true

end Shortlink
