import Shortlink.Traced
import Shortlink.View

/-!
# The panel

The link that was shortened last, which the actions to copy and to delete refer to. It leaves the
panel when it is gone from the server.
-/

namespace Shortlink

/-- The link on the panel, if there is one. -/
abbrev Panel := Option ShortLink

namespace Panel

/-- Something done to the panel. The trace has what becomes visible. -/
abbrev Change (α : Type) := Traced Panel Update α

/-- Puts a link on the panel. -/
def present (link : ShortLink) : Change Unit := do
  Traced.emit (.panel (some link))
  Traced.update fun _ => some link

/-- Whether the link of a key is on the panel. -/
def holds (panel : Panel) (key : Key) : Bool := panel.any (·.key == key)

/-- Empties the panel if the link of this key is on it and gone. Gives whether it did. -/
def settleRemoval (key : Key) (outcome : Removal) : Change Bool := do
  if holds (← Traced.read) key && outcome.isGone then
    Traced.update fun _ => none
    Traced.emit (.panel none)
    return true
  else return false

/-- Shows the count. -/
def presentCount (n : Int64) : Change Unit := Traced.emit (.count n)

end Panel

end Shortlink
