import Shortlink.Decimal.Binary64

/-!
# TOML values

What a key of a TOML document can hold. A table remembers how it came about, since that decides
whether it may be extended later in the document. The keys of a table are in the order in which they
were put there.
-/

namespace Shortlink.Toml

/-- A floating point number. -/
inductive Real
  | finite (x : Decimal.Binary64)
  | infinite (negative : Bool)
  | nan
deriving DecidableEq, Repr

/-- How a table came about. -/
inductive Origin
  /-- By a header of its own, or between braces. -/
  | explicit
  /-- As a part of the path in a header. -/
  | implicit
  /-- As a part of a dotted key. -/
  | dotted
deriving DecidableEq, Repr

/-- What a key holds. -/
inductive Item
  | string (s : String)
  | integer (i : Int)
  | float (x : Real)
  | boolean (b : Bool)
  /-- A date, a time, or both, as it is written. -/
  | moment (text : String)
  | array (items : List Item)
  /-- A table between braces. -/
  | inline (origin : Origin) (entries : List (String × Item))
  | table (origin : Origin) (entries : List (String × Item))
  /-- The tables of headers in double brackets. -/
  | tables (elements : List (List (String × Item)))
deriving Repr

abbrev Entries := List (String × Item)

namespace Entries

/-- The item of a key. -/
def get? (key : String) (es : Entries) : Option Item :=
  (es.find? (·.1 == key)).map (·.2)

/-- The entries with another item for a key that is there. -/
def replace (key : String) (item : Item) (es : Entries) : Entries :=
  es.map fun e => if e.1 = key then (key, item) else e

/-- The entries without those of a key. -/
def erase (key : String) (es : Entries) : Entries :=
  es.filter (·.1 != key)

end Entries

end Shortlink.Toml
