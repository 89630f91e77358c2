import Shortlink.Decimal.Style
import Shortlink.Mismatch
import Shortlink.Text.Blank
import Shortlink.Toml.Reader

/-!
# Settings

Where the server is, how long notifications stay and how long a request may take. Each of them comes
from a default, from the configuration file, from the environment or from the command line, the
later ones taking precedence. A `Layer` holds what one of these sources supplies.
-/

namespace Shortlink

/-- The settings of a client. -/
structure Settings where
  serverUrl : String := "http://localhost:8080"
  notifyMs : UInt64 := 2500
  timeoutSecs : UInt64 := 10
deriving DecidableEq, Repr

/-- What one source supplies. -/
structure Layer where
  serverUrl : Option String := none
  notifyMs : Option UInt64 := none
  timeoutSecs : Option UInt64 := none
deriving DecidableEq, Repr

/-- The settings with those that a source supplies. -/
def Settings.overlay (s : Settings) (l : Layer) : Settings where
  serverUrl := l.serverUrl.getD s.serverUrl
  notifyMs := l.notifyMs.getD s.notifyMs
  timeoutSecs := l.timeoutSecs.getD s.timeoutSecs

/-- Why a file supplies nothing. -/
inductive FileError
  /-- It is no document. -/
  | malformed
  | mismatch (m : Mismatch)
deriving DecidableEq, Repr

/-- The message about a file with an error, if there is one. -/
def FileError.message? : FileError → Option String
  | .malformed => none
  | .mismatch m => some m.message

namespace Layer

/-- The settings that a file may have. -/
def keys : List String := ["server_url", "notify_duration_ms", "request_timeout_secs"]

/-- A float as a message calls it. -/
def realText : Toml.Real → String
  | .finite x => Decimal.plainStyle.text x
  | .infinite negative => if negative then "-inf" else "inf"
  | .nan => "NaN"

/-- A value as a message names it. Dates and times are tables in disguise. -/
def found : Toml.Item → Found
  | .string s => .string s
  | .integer i => .integer i
  | .float x => .float (realText x)
  | .boolean b => .boolean b
  | .array _ | .tables _ => .sequence
  | .moment _ | .inline _ _ | .table _ _ => .map

/-- The text of a setting. -/
def text? (item : Toml.Item) : Except Mismatch String :=
  match item with
  | .string s => .ok s
  | item => .error (.invalidType (found item) "a string")

/-- The number of a setting. -/
def number? (item : Toml.Item) : Except Mismatch UInt64 :=
  match item with
  | .integer i =>
    if 0 ≤ i then .ok (UInt64.ofNat i.toNat) else .error (.invalidValue (.integer i) "u64")
  | item => .error (.invalidType (found item) "u64")

/-- The layer with a setting of a file. -/
def setKey (l : Layer) (key : String) (item : Toml.Item) : Except Mismatch Layer := do
  match key with
  | "server_url" => return { l with serverUrl := some (← text? item) }
  | "notify_duration_ms" => return { l with notifyMs := some (← number? item) }
  | "request_timeout_secs" => return { l with timeoutSecs := some (← number? item) }
  | key => throw (.unknownField key keys)

/-- What the keys of a document supply; the first that is not as it must be spoils all. -/
def ofEntries (es : Toml.Entries) : Except Mismatch Layer :=
  es.foldlM (fun l e => l.setKey e.1 e.2) {}

/-- The layer of a configuration file. -/
def ofFile (text : String) : Except FileError Layer :=
  match Toml.parse text with
  | none => .error .malformed
  | some es => (ofEntries es).mapError .mismatch

/-- A whole number of 64 bits: digits, with a plus sign in front or none. -/
def readNumber (cs : List Char) : Option UInt64 :=
  let ds :=
    match cs with
    | '+' :: rest => rest
    | cs => cs
  let n := Nat.ofDigitChars 10 ds 0
  if !ds.isEmpty && ds.all Char.isDigit && n < Nat.pow 2 64 then some (UInt64.ofNat n) else none

/-- The valid number in a variable. Blanks around it do not matter. -/
def numberOf? (env : String → Option String) (name : String) : Option UInt64 :=
  (env name).bind fun value => readNumber (Text.strip value.toList)

/-- What the environment supplies: of the two names of a setting the one that begins with `APP__`
comes first. -/
def ofEnvironment (env : String → Option String) : Layer where
  serverUrl := env "APP__SERVER_URL" <|> env "SHORTENER_SERVER_URL"
  notifyMs := numberOf? env "APP__NOTIFY_DURATION_MS" <|> numberOf? env "SHORTENER_NOTIFY_MS"
  timeoutSecs :=
    numberOf? env "APP__REQUEST_TIMEOUT_SECS" <|> numberOf? env "SHORTENER_TIMEOUT_SECS"

end Layer

namespace Settings

/-- The settings with those of a file. A file with an error leaves them as they are. -/
def applyFile (s : Settings) (text : String) : Except FileError Settings :=
  (Layer.ofFile text).map s.overlay

/-- The settings with what the environment has for them. -/
def applyEnvironment (s : Settings) (env : String → Option String) : Settings :=
  s.overlay (Layer.ofEnvironment env)

/-- The file that is read when no other is named. -/
def defaultFile : String := "shortener.toml"

/-- Why there are no settings. -/
inductive LoadError
  | unreadable (name : String)
  | invalid (name : String) (e : FileError)
deriving DecidableEq, Repr

/-- The error line about a configuration file. -/
def LoadError.message : LoadError → String
  | .unreadable name => "failed to read " ++ name
  | .invalid name _ => "failed to parse " ++ name

/-- The settings of the files and the environment that there are. A file that is asked for has to be
there; the default one need not. -/
def load (files env : String → Option String) (asked : Option String) : Except LoadError Settings :=
  let name := asked.getD defaultFile
  match files name, asked with
  | some text, _ =>
    match ({} : Settings).applyFile text with
    | .ok s => .ok (s.applyEnvironment env)
    | .error e => .error (.invalid name e)
  | none, some _ => .error (.unreadable name)
  | none, none => .ok (({} : Settings).applyEnvironment env)

end Settings

end Shortlink
