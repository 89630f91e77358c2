import Shortlink.Url.Basic

/-!
# Reading a URL

An absolute URL is read from its scheme on. Controls and blanks around it are dropped, and tabs and
line ends anywhere in it. Special schemes take a backslash for a slash and need not have the two
slashes in front of the host.
-/

namespace Shortlink.Url

/-- The part of a text that the parser looks at. -/
def cleaned (cs : List Char) : List Char :=
  let front := cs.dropWhile (· ≤ ' ')
  let both := (front.reverse.dropWhile (· ≤ ' ')).reverse
  both.filter fun c => !(c == '\t' || c == '\n' || c == '\r')

/-- A character of a scheme behind the first one. -/
def isSchemeChar (c : Char) : Bool :=
  c.isAlphanum || c == '+' || c == '-' || c == '.'

/-- The scheme in lower case, and what stands behind the colon. -/
def splitScheme (cs : List Char) : Option (String × List Char) :=
  match cs.head?, cs.dropWhile isSchemeChar with
  | some first, ':' :: rest =>
    if first.isAlpha then
      some (String.ofList ((cs.takeWhile isSchemeChar).map Char.toLower), rest)
    else none
  | _, _ => none

/-- The port that a scheme has when none is given. -/
def defaultPort? : String → Option Nat
  | "http" | "ws" => some 80
  | "https" | "wss" => some 443
  | "ftp" => some 21
  | _ => none

/-- Whether a character ends the authority. -/
def endsAuthority (special : Bool) (c : Char) : Bool :=
  c == '/' || c == '?' || c == '#' || (special && c == '\\')

/-- The text in front of the last sign for user info in an authority, and the text behind it. -/
def splitUserInfo (special : Bool) (cs : List Char) : Option (List Char × List Char) :=
  let authority := cs.takeWhile (!endsAuthority special ·)
  if authority.contains '@' then
    let host := (authority.reverse.takeWhile (· != '@')).reverse
    let used := authority.length - host.length
    some (authority.take (used - 1), cs.drop used)
  else none

/-- User name and password. An empty password is none. -/
def parseUserInfo (cs : List Char) : String × Option String :=
  let encode (cs : List Char) : String := String.ofList (percentEncode EncodeSet.userInfo cs)
  let password := (cs.dropWhile (· != ':')).drop 1
  (encode (cs.takeWhile (· != ':')), if password.isEmpty then none else some (encode password))

/-- The characters of a host, and those behind it. A colon ends it outside of brackets. -/
def splitHost (special inBrackets : Bool) : List Char → List Char × List Char
  | [] => ([], [])
  | c :: rest =>
    if (c == ':' && !inBrackets) || endsAuthority special c then ([], c :: rest)
    else
      let inBrackets := if c == '[' then true else if c == ']' then false else inBrackets
      let (host, rest) := splitHost special inBrackets rest
      (c :: host, rest)

/-- The port behind a host, and what stands behind the port. The default port is none. -/
def parsePort (scheme : String) (cs : List Char) :
    Except ParseError (Option Nat × List Char) :=
  match cs with
  | ':' :: rest =>
    let digits := rest.takeWhile Char.isDigit
    let rest := rest.dropWhile Char.isDigit
    let port := Nat.ofDigitChars 10 digits 0
    if 65535 < port then .error .invalidPort
    else
      match rest with
      | [] => .ok (if digits.isEmpty ∨ defaultPort? scheme = some port then none else some port, [])
      | c :: _ =>
        if endsAuthority true c then
          .ok (if digits.isEmpty ∨ defaultPort? scheme = some port then none else some port, rest)
        else .error .invalidPort
  | cs => .ok (none, cs)

/-- Query and fragment, which a text behind the path consists of. -/
def parseTail (special : Bool) (cs : List Char) : Option String × Option String :=
  let set := if special then EncodeSet.specialQuery else EncodeSet.query
  let fragment :=
    match cs.dropWhile (· != '#') with
    | _ :: rest => some (String.ofList (percentEncode EncodeSet.fragment rest))
    | [] => none
  match cs with
  | '?' :: rest => (some (String.ofList (percentEncode set (rest.takeWhile (· != '#')))), fragment)
  | _ => (none, fragment)

/-- Whether a character ends the path. -/
def endsPath (c : Char) : Bool := c == '?' || c == '#'

/-- What stands behind the first slash of a path. -/
def dropSlash (special : Bool) : List Char → List Char
  | c :: rest => if c == '/' || (special && c == '\\') then rest else c :: rest
  | [] => []

/-- The path behind an authority: nothing at all, or segments from a slash on, which need not be
written. -/
def parsePath (special : Bool) (cs : List Char) : List (List Char) :=
  let text := cs.takeWhile (!endsPath ·)
  if text.isEmpty && !special then [] else Path.parse false special (dropSlash special text)

/-- Whether an authority must have a host: in a special scheme, in front of a port, and behind user
info, which is empty only where the text ends with it. -/
def needsHost (special : Bool) (userInfo : Option (List Char)) (rest : List Char) : Bool :=
  special || rest.head? == some ':' ||
    match userInfo with
    | none => false
    | some [] => !rest.isEmpty
    | some [c] => c != ':'
    | some _ => true

/-- A URL with an authority, from behind the slashes on. -/
def parseAuthority [DomainRules] (scheme : String) (cs : List Char) : Except ParseError Url := do
  let special := isSpecialScheme scheme
  let split := splitUserInfo special cs
  let (userInfo, rest) := split.getD ([], cs)
  let (username, password) := parseUserInfo userInfo
  let (hostText, rest) := splitHost special false rest
  if hostText.isEmpty && needsHost special (split.map (·.1)) rest then
    throw .emptyHost
  let host ← if special then specialHost hostText else opaqueHost hostText
  let (port, rest) ← parsePort scheme rest
  let (query, fragment) := parseTail special (rest.dropWhile (!endsPath ·))
  return {
    scheme
    authority := some ⟨username, password, String.ofList host, port⟩
    guarded := false
    path := .segments ((parsePath special rest).map String.ofList)
    query
    fragment }

/-- The URL of a file. A drive in its path takes the place of the host. -/
def fileUrl (host : List Char) (segs : List (List Char)) (tail : List Char) : Url :=
  let (query, fragment) := parseTail true tail
  let host := if Path.hasDrive segs then [] else host
  { scheme := "file"
    authority := some ⟨"", none, String.ofList host, none⟩
    guarded := false
    path := .segments ((Path.dropEmptyFront segs).map String.ofList)
    query
    fragment }

/-- Whether a character is a slash of either kind. -/
def isSlash (c : Char) : Bool := c == '/' || c == '\\'

/-- The rest of the URL of a file behind the colon. -/
def parseFile [DomainRules] (cs : List Char) : Except ParseError Url := do
  match cs with
  | c :: d :: rest =>
    if isSlash c && isSlash d then
      let hostText := rest.takeWhile fun c => !(isSlash c || endsPath c)
      if Path.isDriveLetter hostText then return withPath [] rest
      else
        let host ← if hostText.isEmpty then pure [] else specialHost hostText
        let host := if host = "localhost".toList then [] else host
        return withPath host (rest.drop hostText.length)
    else return withPath [] cs
  | cs => return withPath [] cs
where
  /-- The URL of a host and the text from its path on. -/
  withPath (host rest : List Char) : Url :=
    let text := rest.takeWhile (!endsPath ·)
    fileUrl host (Path.parse true true (dropSlash true text)) (rest.drop text.length)

/-- A URL without an authority, from the colon on. -/
def parsePlain (scheme : String) (cs : List Char) : Url :=
  let text := cs.takeWhile (!endsPath ·)
  let (query, fragment) := parseTail false (cs.drop text.length)
  let path : Path :=
    match text with
    | '/' :: text => .segments ((Path.parse false false text).map String.ofList)
    | text => .unstructured (String.ofList (percentEncode EncodeSet.controls text))
  { scheme, authority := none, guarded := path.beginsWithSlashes, path, query, fragment }

/-- The URL that a text is. -/
def parse [DomainRules] (s : String) : Except ParseError Url :=
  match splitScheme (cleaned s.toList) with
  | none => .error .relativeWithoutBase
  | some ("file", rest) => parseFile rest
  | some (scheme, rest) =>
    if isSpecialScheme scheme then parseAuthority scheme (rest.dropWhile isSlash)
    else
      match rest with
      | '/' :: '/' :: rest => parseAuthority scheme rest
      | rest => .ok (parsePlain scheme rest)

end Shortlink.Url
