import Shortlink.Failure
import Shortlink.Traced

/-!
# The clipboard

A worker owns the handle to the clipboard. It opens one when a text is first written and keeps it,
since with some systems a text lasts only as long as the handle that has set it. What the system
answers is a script here: one answer for each attempt to open, one for each text.
-/

namespace Shortlink

/-- What an attempt to open the clipboard comes to. -/
inductive Opening
  | opened
  | refused (reason : String)
  /-- The worker is lost with it. -/
  | crashed
deriving DecidableEq, Repr

/-- What the worker does to the clipboard. -/
inductive ClipboardCall
  | opening
  | setting (text : String)
deriving DecidableEq, Repr

/-- The worker, and what the system answers it from now on. Where the answers run out all goes
well. -/
structure ClipboardWorker where
  holdsHandle : Bool := false
  lost : Bool := false
  openings : List Opening
  /-- The reason why a text is refused, if it is. -/
  settings : List (Option String)
deriving DecidableEq, Repr

namespace ClipboardWorker

/-- Something asked of the worker. The trace has what it does to the clipboard. -/
abbrev Job (α : Type) := Traced ClipboardWorker ClipboardCall α

/-- The failure of every text when the worker is lost. -/
def stopped : Failure := .clipboard "clipboard worker stopped"

/-- Attempts to open the clipboard, and keeps the handle if that goes well. -/
def openHandle : Job (Except Failure Unit) := do
  Traced.emit .opening
  let answer := (← Traced.read).openings.headD .opened
  Traced.update fun w => { w with openings := w.openings.drop 1 }
  match answer with
  | .opened =>
    Traced.update fun w => { w with holdsHandle := true }
    return .ok ()
  | .refused reason => return .error (.clipboard reason)
  | .crashed =>
    Traced.update fun w => { w with lost := true }
    return .error stopped

/-- Puts a text on the clipboard by the handle that is held. -/
def setText (text : String) : Job (Except Failure Unit) := do
  Traced.emit (.setting text)
  let answer := (← Traced.read).settings.headD none
  Traced.update fun w => { w with settings := w.settings.drop 1 }
  match answer with
  | none => return .ok ()
  | some reason => return .error (.clipboard reason)

/-- Writes a text to the clipboard, for which it is opened if there is no handle yet. -/
def write (text : String) : Job (Except Failure Unit) := do
  let w ← Traced.read
  if w.lost then return .error stopped
  else if w.holdsHandle then setText text
  else
    match ← openHandle with
    | .error e => return .error e
    | .ok () => setText text

end ClipboardWorker

end Shortlink
