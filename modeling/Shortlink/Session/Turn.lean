import Shortlink.Shell

/-!
# Turns of a session

A session is a sequence of turns. In each of them something is done, with the replies that the
server has ready for it. The runtime has its own turn at the end of each of them: a timer is started
there, and it hides its message there if its time is over. The clipboard may change in front of a
turn and stays as it is until it changes again.
-/

namespace Shortlink.Session

/-- What can be done in a turn. -/
inductive Step
  | refreshCount
  | shorten (input : String)
  | delete (key : Key)
  | deleteCurrent
  | copy (text : String)
  | copyCurrent
  | resolve (key : Key)
  /-- A line of the shell. -/
  | line (text : String)
  | notifier (call : Notifier.Call)
deriving DecidableEq, Repr

/-- What a step gives. -/
inductive Answer
  | nothing
  | count (n : Int64)
  | link (l : Option ShortLink)
  | removal (r : Option Removal)
  /-- Whether a text was copied, or whether the shell goes on. -/
  | yes (b : Bool)
  | longUrl (url : Option String)
deriving DecidableEq, Repr

/-- What a step does. -/
def Step.act : Step → Action Answer
  | .refreshCount => return .count (← Session.refreshCount)
  | .shorten input => return .link (← Session.shorten input)
  | .delete key => return .removal (some (← Session.delete key))
  | .deleteCurrent => return .removal (← Session.deleteCurrent)
  | .copy text => return .yes (← Session.copy text)
  | .copyCurrent => return .yes (← Session.copyCurrent)
  | .resolve key => return .longUrl (← Session.resolve key)
  | .line text => return .yes (← Shell.dispatch (Command.parse text))
  | .notifier call => do
    onNotifier (Notifier.call call)
    return .nothing

/-- A step and what it meets. -/
structure Turn where
  step : Step
  /-- The replies of the server; those of an earlier turn are gone. -/
  replies : List Reply := []
  /-- Why the clipboard refuses texts from now on, or `none` when it takes them, if that changes. -/
  clipboard : Option (Option String) := none
deriving DecidableEq, Repr

namespace Turn

/-- The session with what the step meets: new replies, and another clipboard if it changes. -/
def prepare (t : Turn) (s : Session) : Session :=
  { s with
    network := { s.network with replies := t.replies }
    clipboardRefusal := t.clipboard.getD s.clipboardRefusal }

/-- Takes a turn: the step, and then the turn of the runtime. -/
def take (t : Turn) : Action Answer := do
  Traced.update t.prepare
  let answer ← t.step.act
  onNotifier Notifier.settle
  return answer

end Turn

/-- Takes turns one after the other. -/
def takeTurns (ts : List Turn) : Action (List Answer) := ts.mapM Turn.take

end Shortlink.Session
