import Shortlink.Traced
import Shortlink.View

/-!
# Notifications

One message is shown at a time, and a timer hides it after a while. A newer message replaces both
the text and the timer of the older one. Every message and every dismissal begins a new generation,
and a timer only hides the message of its own. Time is counted in milliseconds and passes in
`advance` alone.

A timer is a task of the runtime, which runs its tasks when it gets its turn, until none of them can
go on at that time: between two calls that follow each other directly it has none. At its first turn
behind a message the timer of the message is started, and at the first turn at which its time is over
it hides the message. So a timer that is to run for no time at all still waits for a turn.
-/

namespace Shortlink

/-- What hides a message. -/
structure Timer where
  generation : UInt64
  /-- How long it runs. -/
  length : Nat
  /-- When its time is over, from the moment at which it is started. -/
  deadline : Option Nat := none
deriving DecidableEq, Repr

/-- When the time of a timer is over, if the runtime has its turn now. -/
def Timer.deadlineAt (now : Nat) (t : Timer) : Nat := t.deadline.getD (now + t.length)

/-- The timer when the runtime has had its turn. -/
def Timer.start (now : Nat) (t : Timer) : Timer := { t with deadline := some (t.deadlineAt now) }

/-- The state of the notifications. -/
structure Notifier where
  /-- How long a message stays when nothing else is asked for. -/
  duration : Nat
  now : Nat := 0
  message : Option String := none
  generation : UInt64 := 0
  pending : Option Timer := none
deriving DecidableEq, Repr

namespace Notifier

def defaultDuration : Nat := 2500

/-- Something done to the notifications. The trace has what becomes visible. -/
abbrev Change (α : Type) := Traced Notifier Update α

/-- The notifications in a new generation, without a timer. -/
def renew (n : Notifier) : Notifier :=
  { n with generation := n.generation + 1, pending := none }

/-- The notifications with a timer for the message shown, which is still to be started. -/
def schedule (ms : Nat) (n : Notifier) : Notifier :=
  { n with pending := some { generation := n.generation, length := ms } }

/-- Shows a message for some time, or until something else comes where no timer can be started. -/
def notifyFor (timed : Bool) (message : String) (ms : Nat) : Change Unit := do
  Traced.update renew
  Traced.emit (.notification (some message))
  Traced.update fun n => { n with message := some message }
  if timed then Traced.update (schedule ms)

/-- Shows a message for the usual time. -/
def notify (timed : Bool) (message : String) : Change Unit := do
  notifyFor timed message (← Traced.read).duration

/-- Hides the message, and begins a new generation. -/
def dismiss : Change Unit := do
  Traced.update fun n => { n.renew with message := none }
  Traced.emit (.notification none)

/-- What the timer of a generation does. -/
def expire (generation : UInt64) : Change Unit := do
  if (← Traced.read).generation = generation then
    Traced.update fun n => { n with message := none, pending := none }
    Traced.emit (.notification none)

/-- A turn of the runtime: the timer hides its message if its time is over, and it goes on running
if not. -/
def settle : Change Unit := do
  let n ← Traced.read
  match n.pending with
  | some t =>
    if t.deadlineAt n.now ≤ n.now then expire t.generation
    else Traced.update fun n => { n with pending := some (t.start n.now) }
  | none => return

/-- Lets time pass. -/
def advance (ms : Nat) : Change Unit := do
  Traced.update fun n => { n with now := n.now + ms }

/-- Whether there is a message on view. -/
def isVisible (n : Notifier) : Bool := n.message.isSome

/-- Whether a timer is to hide the message. -/
def isPending (n : Notifier) : Bool := n.pending.isSome

/-- One call. -/
inductive Call
  | notify (timed : Bool) (message : String)
  | notifyFor (timed : Bool) (message : String) (ms : Nat)
  | dismiss
  | advance (ms : Nat)
deriving DecidableEq, Repr

/-- What a call does. -/
def Call.act : Call → Change Unit
  | .notify timed message => Notifier.notify timed message
  | .notifyFor timed message ms => Notifier.notifyFor timed message ms
  | .dismiss => Notifier.dismiss
  | .advance ms => Notifier.advance ms

/-- Makes a call and gives the runtime its turn right behind it. -/
def call (c : Call) : Change Unit := do
  c.act
  settle

/-- Makes calls one after the other, with a turn of the runtime behind each of them. -/
def makeCalls (cs : List Call) : Change Unit := cs.forM call

end Notifier

end Shortlink
