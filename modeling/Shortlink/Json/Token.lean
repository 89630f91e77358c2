import Shortlink.Json.Literal
import Shortlink.Json.Numeral

/-!
# The tokens of a JSON text

`lexemes` cuts a text into tokens and notes where each one stands; `tokens` forgets the places, and
with them the blanks in between. A number or a string carries what it stands for, or the slip that a
reader of values reports, and beside it the slip of a reader that only skips it: a number too large
or half a surrogate pair can be skipped but has no value. Where even skipping fails, the text ends
with that token.
-/

namespace Shortlink.Json

/-- A token. -/
inductive Token
  | openArray
  | closeArray
  | openObject
  | closeObject
  | comma
  | colon
  | null
  | boolean (b : Bool)
  | number (value : Except Slip Number) (skipped : Option Slip)
  | string (value : Except Slip String) (skipped : Option Slip)
  /-- Nothing that a token begins with, or a word that is none. -/
  | stray (slip : Slip)

/-- A token and the bytes from which and up to which it extends. -/
structure Lexeme where
  token : Token
  start : Nat
  stop : Nat

/-- Whether a character is a blank of the format. -/
def isSpace (c : Char) : Bool :=
  c == ' ' || c == '\n' || c == '\t' || c == '\r'

/-- When the text ends in a number, a reader that only skips it finds the number unfinished and not
the text. -/
def skippingSlip (slip : Slip) : Slip :=
  if slip.fault = .endInValue then ⟨.invalidNumber, slip.offset⟩ else slip

/-- The string token behind an opening quote, and the text behind it. -/
def scanString (rest : List Char) : Token × Option (List Char) :=
  let value := (readBody 1 rest).map fun (text, _) => String.ofList text
  match skipBody 1 rest with
  | .ok after => (.string value none, some after)
  | .error slip => (.string value (some slip), none)

/-- The number token at the front, and the text behind it. -/
def scanNumber (cs : List Char) : Token × Option (List Char) :=
  match Numeral.scan cs with
  | .ok (n, after) => (.number (n.value (cs.length - after.length)) none, some after)
  | .error slip => (.number (.error slip) (some (skippingSlip slip)), none)

/-- The word token whose first character is read. -/
def scanWord (word : List Char) (t : Token) (rest : List Char) : Token × Option (List Char) :=
  match skipWord 1 word rest with
  | .ok after => (t, some after)
  | .error slip => (.stray slip, none)

/-- The token at the front of a text, and the text behind it unless the token spoils the rest. -/
def scanToken (c : Char) (rest : List Char) : Token × Option (List Char) :=
  match c with
  | '[' => (.openArray, some rest)
  | ']' => (.closeArray, some rest)
  | '{' => (.openObject, some rest)
  | '}' => (.closeObject, some rest)
  | ',' => (.comma, some rest)
  | ':' => (.colon, some rest)
  | '"' => scanString rest
  | 'n' => scanWord ['u', 'l', 'l'] .null rest
  | 't' => scanWord ['r', 'u', 'e'] (.boolean true) rest
  | 'f' => scanWord ['a', 'l', 's', 'e'] (.boolean false) rest
  | c =>
    if c = '-' ∨ c.isDigit then scanNumber (c :: rest)
    else (.stray ⟨.expectedValue, 1⟩, none)

/-- The lexemes of a text that stands at a byte, its first `skip` characters being taken already. -/
def lexFrom (start : Nat) : (skip : Nat) → List Char → List Lexeme
  | _, [] => []
  | skip + 1, c :: rest => lexFrom (start + c.utf8Size) skip rest
  | 0, c :: rest =>
    if isSpace c then lexFrom (start + c.utf8Size) 0 rest
    else
      match scanToken c rest with
      | (t, none) => [⟨t, start, start⟩]
      | (t, some after) =>
        let used := rest.length - after.length
        let stop := start + c.utf8Size + Text.Utf8.size (rest.take used)
        ⟨t, start, stop⟩ :: lexFrom (start + c.utf8Size) used rest

/-- The tokens of a text with their places. -/
def lexemes (cs : List Char) : List Lexeme :=
  lexFrom 0 0 cs

/-- The tokens of a text. -/
def tokens (cs : List Char) : List Token :=
  (lexemes cs).map (·.token)

/-- A string with ill-formed bytes in it can be skipped, but it has no value. -/
def Token.illFormed : Token → Token
  | .string (.ok _) skipped => .string (.error ⟨.invalidUnicode, 1⟩) skipped
  | t => t

/-- The tokens of a text that is given by its bytes. Ill-formed bytes spoil the string that they
stand in, and elsewhere no token begins with them. -/
def byteTokens (bytes : List UInt8) : List Token :=
  (lexemes (Text.Utf8.decodeLossy bytes)).map fun l =>
    if (Text.Utf8.gaps bytes).any fun n => l.start ≤ n && n < l.stop then l.token.illFormed
    else l.token

end Shortlink.Json
