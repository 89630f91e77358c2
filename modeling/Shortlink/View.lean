import Shortlink.Link

/-!
# What is visible

A client shows three things: how many links the server holds, the link that was shortened last, and
a notification. `Update` is one change of what is shown; the text forms of all three are here too.
-/

namespace Shortlink

/-- One change of what is shown. -/
inductive Update
  | count (n : Int64)
  /-- `none` empties the panel. -/
  | panel (link : Option ShortLink)
  /-- `none` hides the notification. -/
  | notification (message : Option String)
deriving DecidableEq, Repr

/-- The line with the count. -/
def countLine (n : Int64) : String :=
  if n = unknownCount then "URLs stored: ?" else "URLs stored: " ++ toString n.toInt

/-- The line about a link. -/
def ShortLink.line (l : ShortLink) : String :=
  "URL: " ++ l.shortUrl ++ (if l.created then " [new]" else "")

/-- A link as the whole panel: its line, and what can be done with it. -/
def ShortLink.panel (l : ShortLink) : String :=
  l.line ++ "\n  [copy] " ++ l.shortUrl ++ "\n  [delete " ++ l.key ++ "]"

/-- What a terminal prints for a change. A hidden notification prints nothing. -/
def Update.printed : Update → String
  | .count n => countLine n ++ "\n"
  | .panel (some l) => l.panel ++ "\n"
  | .panel none => "(result cleared)\n"
  | .notification (some m) => ">> " ++ m ++ "\n"
  | .notification none => ""

end Shortlink
