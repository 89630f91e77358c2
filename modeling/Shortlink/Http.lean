import Shortlink.Text.Utf8
import Shortlink.Traced
import Shortlink.Url.Parse

/-!
# Requests and replies

A client sends requests one after the other, and a network answers them from a queue of replies. A
request is made once: it is not repeated, and a redirection is not followed. Only plain connections
lead anywhere, and none does while the network is down; a request that finds no connection is not
seen by anyone and takes no reply.
-/

namespace Shortlink

/-- What a request asks for. -/
inductive Method
  | get
  | post
  | delete
deriving DecidableEq, Repr

def Method.name : Method → String
  | .get => "GET"
  | .post => "POST"
  | .delete => "DELETE"

/-- A request. A body is JSON. -/
structure Request where
  method : Method
  url : Url
  body : Option String
deriving DecidableEq, Repr

def Request.contentType : String := "application/json"

/-- The URL that is asked for: without user info, which goes into a header, and without fragment,
which stays with the client. -/
def Request.target (r : Request) : String := r.url.withoutUserInfo.withoutFragment.text

/-- A response with the bytes of its body, of which the end may be missing. -/
structure Response where
  status : UInt16
  headers : List (String × String)
  body : List UInt8
  cut : Bool
deriving DecidableEq, Repr

namespace Response

/-- The bytes of the body, if all of it arrives. Two statuses never have a body. -/
def bytes? (r : Response) : Option (List UInt8) :=
  if r.status = 204 ∨ r.status = 304 then some []
  else if r.cut then none
  else some r.body

/-- The text of the body if it arrives, whatever its bytes are. -/
def text? (r : Response) : Option String :=
  r.bytes?.map fun bytes => String.ofList (Text.Utf8.decodeLossy bytes)

/-- Whether the status tells of success. -/
def isSuccess (r : Response) : Bool := 200 ≤ r.status && r.status ≤ 299

/-- Whether the status tells that the answer is elsewhere. -/
def isRedirection (r : Response) : Bool := 300 ≤ r.status && r.status ≤ 399

/-- Whether a character may stand in a header that is used as text. -/
def isHeaderChar (c : Char) : Bool := (' ' ≤ c && c ≤ '~') || c == '\t'

/-- The first header of a name, without the spaces and tabs around it. -/
def header? (name : String) (r : Response) : Option String :=
  (r.headers.find? fun h => h.1.toLower == name).map fun h =>
    let front := h.2.toList.dropWhile fun c => c == ' ' || c == '\t'
    String.ofList (front.reverse.dropWhile fun c => c == ' ' || c == '\t').reverse

/-- Where a redirection leads, if that can be used as text. -/
def location? (r : Response) : Option String :=
  (r.header? "location").filter fun value => value.toList.all isHeaderChar

end Response

/-- What comes back for a request. -/
inductive Reply
  | response (r : Response)
  /-- The connection is closed without a response. -/
  | closed
  /-- There is no response until the client gives up. -/
  | hung
deriving DecidableEq, Repr

/-- What lies between the client and the server. -/
structure Network where
  /-- Whether connections can be made at all. -/
  up : Bool
  /-- The replies to come. When they run out, connections are closed. -/
  replies : List Reply
deriving DecidableEq, Repr

/-- Why a request has no response. -/
inductive SendError
  /-- No request can be made for this URL. -/
  | unusable (url : Url)
  | unanswered (url : Url)
deriving DecidableEq, Repr

/-- The message about a request that has no response. -/
def SendError.message : SendError → String
  | .unusable url => "builder error for url (" ++ url.withoutUserInfo.text ++ ")"
  | .unanswered url => "error sending request for url (" ++ url.withoutUserInfo.text ++ ")"

/-- Whether requests can be made to a host. -/
def isRequestHost (host : String) : Bool :=
  !host.isEmpty && host.toList.all fun c => !("\"\x60\x7b\x7d".toList.contains c)

/-- The bytes of the longest URL for which a request can be made. -/
def longestUrl : Nat := 65534

/-- Whether a request can be made for a URL at all. The user info does not count for its length,
though the fragment does. -/
def Url.isRequestable (u : Url) : Bool :=
  (u.scheme = "http" || u.scheme = "https") &&
    (match u.authority with
    | some a => isRequestHost a.host
    | none => false) &&
    u.withoutUserInfo.text.utf8ByteSize ≤ longestUrl

namespace Network

/-- Whether there is a server at the other end. -/
def reaches (n : Network) (u : Url) : Bool := n.up && u.scheme = "http"

/-- The next reply, and the network behind it. -/
def next (n : Network) : Reply × Network :=
  match n.replies with
  | [] => (.closed, n)
  | r :: rest => (r, { n with replies := rest })

/-- Sends a request. The trace has the requests that were made. -/
def send (r : Request) : Traced Network Request (Except SendError Response) := do
  let n ← Traced.read
  if !r.url.isRequestable then return .error (.unusable r.url)
  else if !n.reaches r.url then return .error (.unanswered r.url)
  else
    Traced.emit r
    Traced.update fun n => n.next.2
    match n.next.1 with
    | .response response => return .ok response
    | .closed | .hung => return .error (.unanswered r.url)

end Network

end Shortlink
