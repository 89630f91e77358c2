import Shortlink.Link
import Shortlink.Text.Blank

/-!
# Lines of the shell

A line is a command word and its argument, the first blank between them. A line that is a single
word and looks like a URL asks to shorten it. `Command.line` writes a command back.
-/

namespace Shortlink

/-- What a line asks for. -/
inductive Command
  | shorten (url : String)
  /-- Without a key it is the link on the panel that is meant. -/
  | delete (key : Option Key)
  | copy
  | resolve (key : Key)
  | count
  | help
  | quit
  | empty
  | unknown (line : String)
deriving DecidableEq, Repr

namespace Command

/-- Whether the sign behind a scheme is in a word. -/
def hasScheme : List Char → Bool
  | ':' :: '/' :: '/' :: _ => true
  | _ :: rest => hasScheme rest
  | [] => false

/-- Whether a word on its own is taken for a URL to shorten. -/
def looksLikeUrl (word : List Char) : Bool :=
  word.contains '.' || hasScheme word

/-- The command of a line without blanks around it, given its first word and the argument. -/
def ofWord (line word argument : List Char) : Command :=
  let w := String.ofList word
  let a := String.ofList argument
  if w = "" then .empty
  else if w = "shorten" ∨ w = "s" then .shorten a
  else if w = "delete" ∨ w = "d" ∨ w = "rm" then .delete (if argument.isEmpty then none else some a)
  else if w = "copy" ∨ w = "c" then .copy
  else if (w = "resolve" ∨ w = "r") ∧ ¬argument.isEmpty then .resolve a
  else if w = "count" then .count
  else if w = "help" ∨ w = "?" then .help
  else if w = "quit" ∨ w = "exit" ∨ w = "q" then .quit
  else if argument.isEmpty ∧ looksLikeUrl word then .shorten w
  else .unknown (String.ofList line)

/-- The command that a line asks for, by its first word and what stands behind it. -/
def parse (line : String) : Command :=
  let line := Text.strip line.toList
  let (word, rest) := Text.splitWord line
  ofWord line word (Text.strip rest)

/-- A line that asks for a command. -/
def line : Command → String
  | .shorten url => "shorten " ++ url
  | .delete none => "delete"
  | .delete (some key) => "delete " ++ key
  | .copy => "copy"
  | .resolve key => "resolve " ++ key
  | .count => "count"
  | .help => "help"
  | .quit => "quit"
  | .empty => ""
  | .unknown line => line

end Command

end Shortlink
