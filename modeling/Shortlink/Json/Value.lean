import Shortlink.Decimal.Binary64

/-!
# JSON values

A JSON text taken as a value of its own. The members of an object are kept in the order of their
names, each name once: of members with one name the last one counts.
-/

namespace Shortlink.Json

/-- A whole number where 64 bits hold it, and a binary floating point number elsewhere. -/
inductive Number
  | integer (i : Int)
  | float (x : Decimal.Binary64)
deriving DecidableEq, Repr

/-- A JSON value. -/
inductive Value
  | null
  | boolean (b : Bool)
  | number (n : Number)
  | string (s : String)
  | array (items : List Value)
  | object (members : List (String × Value))
deriving Repr

namespace Value

/-- Puts a member in its place by name; one that has the name already gives way. -/
def insert (name : String) (v : Value) : List (String × Value) → List (String × Value)
  | [] => [(name, v)]
  | (n, w) :: rest =>
    if name = n then (name, v) :: rest
    else if name < n then (name, v) :: (n, w) :: rest
    else (n, w) :: insert name v rest

/-- The object that has these members, the later ones taking precedence. -/
def ofMembers (members : List (String × Value)) : Value :=
  .object (members.foldl (fun acc m => insert m.1 m.2 acc) [])

/-- The value of the member with a name. -/
def get? (name : String) (members : List (String × Value)) : Option Value :=
  (members.find? (·.1 == name)).map (·.2)

/-- The text of a string, nothing for any other value. -/
def asString? : Value → Option String
  | .string s => some s
  | _ => none

end Value

end Shortlink.Json
