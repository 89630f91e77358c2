import Shortlink.Http
import Shortlink.Payload
import Shortlink.Wire

/-!
# The server

What a client can ask the server for: the count of its links, a new link, the removal of a link, and
the long URL behind a key. Links lie below the base URL, one segment each.
-/

namespace Shortlink

/-- A server by its base URL, below which something can be put. -/
structure Server where
  base : Url
  structured : base.isUnstructured = false

/-- An exchange with a server. The trace has the requests. -/
abbrev Exchange (α : Type) := Traced Network Request α

namespace Server

/-- The server at a URL. -/
def ofUrl [Url.DomainRules] (url : String) : Except Failure Server :=
  match Url.parse (Text.trim url) with
  | .error e =>
    .error (.config ("invalid server url " ++ Text.quoted url ++ ": " ++ e.message))
  | .ok base =>
    if h : base.isUnstructured = false then .ok ⟨base, h⟩
    else .error (.config ("server url " ++ base.text ++ " cannot carry a path"))

variable (s : Server)

/-- Where the count is asked for. -/
def countUrl : Url := s.base.below ["ping"]

/-- Where links are made. -/
def linksUrl : Url := s.base.below []

/-- The URL of a link. -/
def keyUrl (key : Key) : Url := s.base.below [key]

/-- The count in a response. A response that has none holds the unknown count. -/
def countOf (r : Response) : Int64 :=
  match r.bytes?.map CountReply.readBytes with
  | some (.ok reply) => reply.count.getD unknownCount
  | _ => unknownCount

/-- Asks for the count. It is unknown where no number comes back. -/
def count : Exchange Int64 := do
  match ← Network.send ⟨.get, s.countUrl, none⟩ with
  | .error _ => return unknownCount
  | .ok r => return countOf r

/-- A response that is not what was asked for. -/
def rejected (r : Response) (body : String) : Failure :=
  .remote (some r.status) (Payload.describeBody r.status body)

/-- The failure where the body of a response does not arrive. -/
def unreadable : Failure := .network "error decoding response body"

/-- The link that a response carries, or why there is none. -/
def linkOf (r : Response) : Except Failure ShortLink :=
  match r.text? with
  | none => .error unreadable
  | some body =>
    if !r.isSuccess then .error (rejected r body)
    else
      match LinkReply.read body.toList with
      | .error e => .error (.remote (some r.status) ("malformed response: " ++ e.message))
      | .ok ⟨some key, some shortUrl, longUrl⟩ => .ok ⟨key, shortUrl, r.status = 201, longUrl⟩
      | .ok _ => .error (rejected r body)

/-- Asks to shorten a URL. A blank one is refused at once. -/
def shorten (input : String) : Exchange (Except Failure ShortLink) := do
  if Text.isBlankText input then
    return .error (.validation "Please enter a valid URL.")
  else
    let body := (LinkRequest.toJson ⟨Text.trim input⟩).text
    match ← Network.send ⟨.post, s.linksUrl, some body⟩ with
    | .error e => return .error (.network e.message)
    | .ok r => return linkOf r

/-- Asks to remove a link. With a blank key nothing is sent, since that would be the base itself. -/
def remove (key : Key) : Exchange Removal := do
  if Text.isBlankText key then return .failed
  else
    match ← Network.send ⟨.delete, s.keyUrl key, none⟩ with
    | .error _ => return .failed
    | .ok r => return .ofStatus r.status

/-- The long URL in a response, `none` where the key is not known. -/
def longUrlOf (r : Response) : Except Failure (Option String) :=
  if r.status = 404 then .ok none
  else if r.isRedirection then
    match r.location? with
    | some url => .ok (some url)
    | none => .error (.remote (some r.status) "redirect without location")
  else .error (rejected r (r.text?.getD ""))

/-- Asks for the long URL behind a key. A blank key is refused at once. -/
def resolve (key : Key) : Exchange (Except Failure (Option String)) := do
  if Text.isBlankText key then return .error (.validation "Please enter a short URL key.")
  else
    match ← Network.send ⟨.get, s.keyUrl key, none⟩ with
    | .error e => return .error (.network e.message)
    | .ok r => return longUrlOf r

end Server

end Shortlink
