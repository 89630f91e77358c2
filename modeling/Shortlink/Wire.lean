import Shortlink.Failure
import Shortlink.Json.Printer
import Shortlink.Json.Record
import Shortlink.Link

/-!
# What is exchanged with the server

The JSON forms of requests and replies, and of the values that are kept as JSON. Each type has a
reader and a writer; the writer puts the fields in the order in which the type has them.
-/

namespace Shortlink

open Json

/-- The request to shorten a URL. -/
structure LinkRequest where
  url : String
deriving DecidableEq, Repr

/-- The reply to a request to shorten a URL. Nothing in it is certain to be there. -/
structure LinkReply where
  key : Option String
  shortUrl : Option String
  longUrl : Option String
deriving DecidableEq, Repr

/-- The reply to the question how many links there are. -/
structure CountReply where
  count : Option Int64
deriving DecidableEq, Repr

namespace CountReply

/-- A count reply that is being read: the field is there or not, and `null` or not. -/
structure Draft where
  count : Option (Option Int64) := none

def shape : Shape Draft CountReply where
  name := "PingResponse"
  fields :=
    [.of "count" (readOptional readInt64) (·.count) (fun x d => { d with count := some x }) true]
  blank := {}
  finish := fun d => .ok ⟨d.count.join⟩

def read (text : List Char) : Except Json.Error CountReply :=
  decodeWith shape.read text

/-- Reads a text that is given by its bytes. -/
def readBytes (bytes : List UInt8) : Except Stop CountReply :=
  readAll shape.read (byteTokens bytes)

def toJson (r : CountReply) : Value :=
  .object [("count", (r.count.map fun n => Value.number (.integer n.toInt)).getD .null)]

end CountReply

namespace LinkRequest

/-- A link request that is being read. -/
structure Draft where
  url : Option String := none

def shape : Shape Draft LinkRequest where
  name := "ShortenRequest"
  fields := [.of "url" readString (·.url) (fun x d => { d with url := some x }) false]
  blank := {}
  finish := fun d =>
    match d.url with
    | some url => .ok ⟨url⟩
    | none => .error (.missingField "url")

def read (text : List Char) : Except Json.Error LinkRequest :=
  decodeWith shape.read text

def toJson (r : LinkRequest) : Value :=
  .object [("url", .string r.url)]

end LinkRequest

namespace LinkReply

/-- A link reply that is being read. -/
structure Draft where
  key : Option (Option String) := none
  shortUrl : Option (Option String) := none
  longUrl : Option (Option String) := none

def shape : Shape Draft LinkReply where
  name := "ShortenResponse"
  fields :=
    [.of "key" (readOptional readString) (·.key) (fun x d => { d with key := some x }) true,
      .of "short_url" (readOptional readString) (·.shortUrl)
        (fun x d => { d with shortUrl := some x }) true,
      .of "long_url" (readOptional readString) (·.longUrl)
        (fun x d => { d with longUrl := some x }) true]
  blank := {}
  finish := fun d => .ok ⟨d.key.join, d.shortUrl.join, d.longUrl.join⟩

def read (text : List Char) : Except Json.Error LinkReply :=
  decodeWith shape.read text

def toJson (r : LinkReply) : Value :=
  .object
    [("key", .ofString? r.key), ("short_url", .ofString? r.shortUrl),
      ("long_url", .ofString? r.longUrl)]

end LinkReply

namespace ShortLink

/-- A short link that is being read. -/
structure Draft where
  key : Option Key := none
  shortUrl : Option String := none
  created : Option Bool := none
  longUrl : Option (Option String) := none

/-- The link of a draft; only the long URL may be missing. -/
def Draft.finish (d : Draft) : Except Mismatch ShortLink :=
  match d.key, d.shortUrl, d.created with
  | none, _, _ => .error (.missingField "key")
  | some _, none, _ => .error (.missingField "short_url")
  | some _, some _, none => .error (.missingField "created")
  | some key, some shortUrl, some created => .ok ⟨key, shortUrl, created, d.longUrl.join⟩

def shape : Shape Draft ShortLink where
  name := "ShortenResult"
  fields :=
    [.of "key" readString (·.key) (fun x d => { d with key := some x }) false,
      .of "short_url" readString (·.shortUrl) (fun x d => { d with shortUrl := some x }) false,
      .of "created" readBool (·.created) (fun x d => { d with created := some x }) false,
      .of "long_url" (readOptional readString) (·.longUrl)
        (fun x d => { d with longUrl := some x }) false]
  blank := {}
  finish := Draft.finish

def read (text : List Char) : Except Json.Error ShortLink :=
  decodeWith shape.read text

def toJson (l : ShortLink) : Value :=
  .object
    [("key", .string l.key), ("short_url", .string l.shortUrl), ("created", .boolean l.created),
      ("long_url", .ofString? l.longUrl)]

end ShortLink

namespace Key

def read (text : List Char) : Except Json.Error Key :=
  decodeWith readString text

def toJson (k : Key) : Value := .string k

end Key

namespace Removal

def name : Removal → String
  | .deleted => "deleted"
  | .notFound => "not_found"
  | .failed => "failed"

def all : List Removal := [.deleted, .notFound, .failed]

def read (text : List Char) : Except Json.Error Removal :=
  decodeWith (readChoice (all.map fun r => (r.name, r))) text

def toJson (r : Removal) : Value := .string r.name

end Removal

namespace FailureKind

def read (text : List Char) : Except Json.Error FailureKind :=
  decodeWith (readChoice (all.map fun k => (k.name, k))) text

def toJson (k : FailureKind) : Value := .string k.name

end FailureKind

end Shortlink
