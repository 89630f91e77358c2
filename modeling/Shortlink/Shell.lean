import Shortlink.Command
import Shortlink.Session

/-!
# The shell

The lines of the input are carried out one after the other, until one asks to leave, the input ends,
or a line is not well-formed text. A line ends with a line feed; a carriage return in front of it is
a blank like any other.
-/

namespace Shortlink.Shell

def help : String :=
  "commands:\n" ++
  "  <url> | shorten <url>   shorten a URL\n" ++
  "  delete [key]            delete the shown result, or the given key\n" ++
  "  copy                    copy the shown short URL\n" ++
  "  resolve <key>           show the long URL behind a key\n" ++
  "  count                   refresh the stored URL count\n" ++
  "  help                    show this help\n" ++
  "  quit                    leave"

/-- The input cannot be read as text. -/
structure InputError where
deriving DecidableEq, Repr

def InputError.message (_ : InputError) : String := "stream did not contain valid UTF-8"

/-- Carries out a command. Gives whether the session goes on. -/
def dispatch (c : Command) : Action Bool := do
  match c with
  | .shorten url =>
    let _ ← Session.shorten url
    return true
  | .delete (some key) =>
    let _ ← Session.delete key
    return true
  | .delete none =>
    let _ ← Session.deleteCurrent
    return true
  | .copy =>
    let _ ← Session.copyCurrent
    return true
  | .resolve key =>
    let _ ← Session.resolve key
    return true
  | .count =>
    let _ ← Session.refreshCount
    return true
  | .help =>
    Traced.emit (.printed help)
    return true
  | .quit => return false
  | .empty => return true
  | .unknown line =>
    Session.notify ("Unknown command: " ++ line ++ " (try \x60help\x60)")
    return true

/-- The lines of an input, of which the last need not have an end. -/
def splitLines : List UInt8 → List (List UInt8)
  | [] => []
  | b :: rest =>
    if b = 10 then [] :: splitLines rest
    else
      match splitLines rest with
      | line :: lines => (b :: line) :: lines
      | [] => [[b]]

/-- The text of a line, if its bytes are one. -/
def lineText? (line : List UInt8) : Option String :=
  (Text.Utf8.decode? line).map String.ofList

/-- Carries out lines, up to one that asks to leave. -/
def runLines : List (List UInt8) → Action (Except InputError Unit)
  | [] => return .ok ()
  | line :: rest =>
    match lineText? line with
    | none => return .error ⟨⟩
    | some text => do
      if ← dispatch (Command.parse text) then runLines rest else return .ok ()

/-- Reads an input line by line: help and the count come first, and the message on view goes
last. -/
def run (input : List UInt8) : Action (Except InputError Unit) := do
  Traced.emit (.printed help)
  let _ ← Session.refreshCount
  match ← runLines (splitLines input) with
  | .error e => return .error e
  | .ok () =>
    Session.onNotifier Notifier.dismiss
    return .ok ()

end Shortlink.Shell
