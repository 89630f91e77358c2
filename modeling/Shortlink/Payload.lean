import Shortlink.Json.Printer
import Shortlink.Json.Reader
import Shortlink.Text.Blank

/-!
# Error payloads

What to show of the body of a reply that is an error. Servers answer with a bare JSON string or with
an object that has an `error` or a `message`; any other JSON is shown as it is, in compact form, and
a body that is no JSON as its text.
-/

namespace Shortlink.Payload

open Json

/-- The first text among the members of these names. -/
def memberText? (names : List String) (members : List (String × Value)) : Option String :=
  names.findSome? fun name => (Value.get? name members).bind Value.asString?

/-- What a payload says: its own text where it has one, else the value as it is written. -/
def describe (v : Value) : String :=
  match v with
  | .string s => Text.trim s
  | .object members =>
    match memberText? ["error", "message"] members with
    | some s => Text.trim s
    | none => v.text
  | .null => ""
  | v => v.text

/-- What to show of a body, before it is known to be blank. -/
def bodyText (body : String) : String :=
  match Json.parse body.toList with
  | .ok v => describe v
  | .error _ => Text.trim body

/-- What to show of the body of a reply; the status stands in for a blank one. -/
def describeBody (status : UInt16) (body : String) : String :=
  if (bodyText body).isEmpty then "HTTP " ++ toString status.toNat else bodyText body

end Shortlink.Payload
