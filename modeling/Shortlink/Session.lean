import Shortlink.Notifier
import Shortlink.Panel
import Shortlink.Server

/-!
# A session

Everything a user does runs through here, and every failure ends as a notification. A session holds
the server, the network in front of it, the panel and the notifications; its trace has all that the
outside sees, in order.
-/

namespace Shortlink

/-- Something that the outside sees of a session. -/
inductive Effect
  | requested (r : Request)
  | shown (u : Update)
  /-- A text is on the clipboard. -/
  | copied (text : String)
  /-- A line, or several, of the session's own. -/
  | printed (text : String)
deriving DecidableEq, Repr

/-- What is printed of an event. -/
def Effect.output : Effect → String
  | .shown u => u.printed
  | .printed text => text ++ "\n"
  | .requested _ | .copied _ => ""

/-- What is printed of the events of a trace. -/
def output (trace : List Effect) : String := String.join (trace.map Effect.output)

/-- The requests among the events of a trace. -/
def requests (trace : List Effect) : List Request :=
  trace.filterMap fun
    | .requested r => some r
    | _ => none

/-- The state of a session. -/
structure Session where
  server : Server
  network : Network
  panel : Panel := none
  notifier : Notifier
  /-- Why the clipboard refuses texts, if it does. -/
  clipboardRefusal : Option String := none

/-- Something done in a session. -/
abbrev Action (α : Type) := Traced Session Effect α

namespace Session

/-- What a notification says after an action. -/
def createdMessage : String := "Short URL created"
def existingMessage : String := "URL was already shortened"
def deletedMessage : String := "URL deleted successfully!"
def notFoundMessage : String := "URL not found!"
def deleteFailedMessage : String := "An error occurred while deleting the URL."
def copiedMessage : String := "Copied to clipboard!"
def nothingSelectedMessage : String := "Nothing to act on; shorten a URL first."

/-- Asks the server for something. The requests are seen. -/
def exchange (f : Server → Exchange α) : Action α := do
  let server := (← Traced.read).server
  Traced.focus (·.network) (fun n s => { s with network := n }) .requested (f server)

/-- Changes the panel. What becomes visible is seen. -/
def onPanel (c : Panel.Change α) : Action α :=
  Traced.focus (·.panel) (fun p s => { s with panel := p }) .shown c

/-- Changes the notifications. What becomes visible is seen. -/
def onNotifier (c : Notifier.Change α) : Action α :=
  Traced.focus (·.notifier) (fun n s => { s with notifier := n }) .shown c

/-- Shows a message for the usual time. -/
def notify (message : String) : Action Unit := onNotifier (Notifier.notify true message)

/-- Asks for the count and shows it. -/
def refreshCount : Action Int64 := do
  let n ← exchange Server.count
  onPanel (Panel.presentCount n)
  return n

/-- What is said of a link, new or not. -/
def shortenedMessage (link : ShortLink) : String :=
  if link.created then createdMessage else existingMessage

/-- Shortens a URL and puts the link on the panel. The count is asked for unless the input was
refused before anything was sent. -/
def shorten (input : String) : Action (Option ShortLink) := do
  match ← exchange (·.shorten input) with
  | .ok link =>
    notify (shortenedMessage link)
    onPanel (Panel.present link)
    let _ ← refreshCount
    return some link
  | .error (.validation m) =>
    notify (Failure.validation m).userMessage
    return none
  | .error e =>
    notify e.userMessage
    let _ ← refreshCount
    return none

/-- What is said of a removal. -/
def removalMessage : Removal → String
  | .deleted => deletedMessage
  | .notFound => notFoundMessage
  | .failed => deleteFailedMessage

/-- Removes the link of a key, takes it off the panel if it is there and gone, and asks for the
count. -/
def delete (key : Key) : Action Removal := do
  let outcome ← exchange (·.remove key)
  let _ ← onPanel (Panel.settleRemoval key outcome)
  notify (removalMessage outcome)
  let _ ← refreshCount
  return outcome

/-- Removes the link on the panel, if there is one. -/
def deleteCurrent : Action (Option Removal) := do
  match (← Traced.read).panel with
  | some link => return some (← delete link.key)
  | none =>
    notify nothingSelectedMessage
    return none

/-- Puts a text on the clipboard, if that takes it. -/
def writeClipboard (text : String) : Action (Except Failure Unit) := do
  match (← Traced.read).clipboardRefusal with
  | some reason => return .error (.clipboard reason)
  | none =>
    Traced.emit (.copied text)
    return .ok ()

/-- Copies a text, and says whether it worked. -/
def copy (text : String) : Action Bool := do
  match ← writeClipboard text with
  | .ok () =>
    notify copiedMessage
    return true
  | .error e =>
    notify e.userMessage
    return false

/-- Copies the short URL on the panel, if there is one. -/
def copyCurrent : Action Bool := do
  match (← Traced.read).panel with
  | some link => copy link.shortUrl
  | none =>
    notify nothingSelectedMessage
    return false

/-- Asks for the long URL of a key, and says what it is or why there is none. -/
def resolve (key : Key) : Action (Option String) := do
  match ← exchange (·.resolve key) with
  | .ok (some url) =>
    notify (key ++ " -> " ++ url)
    return some url
  | .ok none =>
    notify notFoundMessage
    return none
  | .error e =>
    notify e.userMessage
    return none

end Session

end Shortlink
