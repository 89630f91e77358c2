import Shortlink.Url.Path

/-!
# URLs

A URL by its components, each in its serialised form: they hold no character that would have to be
encoded where it stands. `Url.text` writes the whole.
-/

namespace Shortlink

/-- The part between the two slashes and the path. -/
structure Authority where
  username : String
  password : Option String
  host : String
  port : Option Nat
deriving DecidableEq, Repr

/-- A URL. -/
structure Url where
  scheme : String
  authority : Option Authority
  /-- Whether `/.` stands in front of the path. Where there is no authority, this keeps a path that
  begins with two slashes from being read as one. -/
  guarded : Bool
  path : Url.Path
  query : Option String
  fragment : Option String
deriving DecidableEq, Repr

/-- User name and password with the sign behind them. -/
def Authority.userInfoText (a : Authority) : String :=
  match a.password with
  | some password => a.username ++ ":" ++ password ++ "@"
  | none => if a.username.isEmpty then "" else a.username ++ "@"

/-- The authority as it is written. -/
def Authority.text (a : Authority) : String :=
  "//" ++ a.userInfoText ++ a.host ++
    match a.port with
    | some port => ":" ++ toString port
    | none => ""

namespace Url

/-- The schemes whose URLs always have a host, files apart, and a path. -/
def isSpecialScheme (scheme : String) : Bool :=
  ["http", "https", "ws", "wss", "ftp", "file"].contains scheme

def isSpecial (u : Url) : Bool := isSpecialScheme u.scheme

/-- Whether the path has no structure, so that nothing can be put below it. -/
def isUnstructured (u : Url) : Bool :=
  match u.path with
  | .unstructured _ => true
  | .segments _ => false

/-- What is written between the scheme and the path. -/
def authorityText (u : Url) : String :=
  match u.authority with
  | some a => a.text
  | none => if u.guarded then "/." else ""

/-- A component with the mark in front, if it is there. -/
def marked (mark : String) : Option String → String
  | some s => mark ++ s
  | none => ""

/-- The URL as it is written. -/
def text (u : Url) : String :=
  u.scheme ++ ":" ++ u.authorityText ++ u.path.text ++ marked "?" u.query ++ marked "#" u.fragment

def withoutFragment (u : Url) : Url := { u with fragment := none }

/-- Whether a text with percent signs stands for well-formed text. -/
def isDecodable (s : String) : Bool :=
  (Text.Utf8.decode? (percentDecode s.toList)).isSome

/-- Whether there is user info that can be taken off: a user name that is well formed, and with it
another name than the empty one or a well-formed password. -/
def Authority.hasUserInfo (a : Authority) : Bool :=
  isDecodable a.username && (!a.username.isEmpty || (a.password.map isDecodable).getD false)

/-- The URL without the name and the password in it. -/
def withoutUserInfo (u : Url) : Url :=
  { u with
    authority := u.authority.map fun a =>
      if Authority.hasUserInfo a then { a with username := "", password := none } else a }

/-- The path without a slash at the end, which a path of only a slash keeps. -/
def trimPath (u : Url) : Url :=
  match u.path with
  | .segments segs => { u with path := .segments (Path.withoutTrailingSlash segs) }
  | .unstructured _ => u

/-- The URL with a text put in as a further segment. -/
def push (u : Url) (seg : String) : Url :=
  match u.path with
  | .segments segs =>
    { u with path := .segments (Path.extend (u.scheme = "file") u.isSpecial segs seg) }
  | .unstructured _ => u

/-- The URL of what lies below another one, in these segments. -/
def below (u : Url) (segs : List String) : Url :=
  segs.foldl push u.trimPath

end Url

end Shortlink
