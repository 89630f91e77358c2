import Shortlink.Json.Token

/-!
# Reading tokens

A reader takes tokens off the front. Where it stops it notes how many tokens are left, the one at
fault included, and where in that token the fault lies; so what is read does not depend on the
places of the tokens, and line and column are worked out afterwards from the lexemes.
-/

namespace Shortlink.Json

/-- A place in relation to a token. -/
inductive Place
  | start
  /-- Behind its first byte. -/
  | head
  | stop
  | within (offset : Nat)
deriving DecidableEq, Repr

/-- Where and why a reader stopped. -/
structure Stop where
  fault : Fault
  /-- How many tokens are left, the one that `place` is about being the first of them. -/
  left : Nat
  place : Place
deriving DecidableEq, Repr

/-- What a reader gives: a value and the tokens behind it. -/
abbrev Reading (α : Type) := Except Stop (α × List Token)

/-- Stops at the first byte of the next token, or at the end of the text. -/
def stopAt (fault : Fault) (ts : List Token) : Reading α :=
  .error ⟨fault, ts.length, .head⟩

/-- Reading stops here at a slip. -/
def slipAt (slip : Slip) (ts : List Token) : Reading α :=
  .error ⟨slip.fault, ts.length, .within slip.offset⟩

/-- Stops at a next token that is no value: it may be none at all. -/
def noValue (ts : List Token) : Reading α :=
  match ts with
  | [] => stopAt .endInValue ts
  | .stray slip :: _ => slipAt slip ts
  | _ => stopAt .expectedValue ts

/-- The name of a member. -/
def readName (ts : List Token) : Reading String :=
  match ts with
  | .string (.ok name) _ :: rest => .ok (name, rest)
  | .string (.error slip) _ :: _ => slipAt slip ts
  | _ => stopAt .keyNotString ts

/-- The colon behind the name of a member. -/
def readColon (ts : List Token) : Except Stop (List Token) :=
  match ts with
  | .colon :: rest => .ok rest
  | [] => .error ⟨.endInObject, 0, .head⟩
  | _ => .error ⟨.expectedColon, ts.length, .head⟩

mutual

/-- A value of its own. `depth` is the number of brackets that may be open less one; `budget` bounds
the steps and is never used up when it starts at twice the number of tokens. -/
def readValue (budget depth : Nat) (ts : List Token) : Reading Value :=
  match budget with
  | 0 => stopAt .endInValue ts
  | budget + 1 =>
    match ts with
    | .null :: rest => .ok (.null, rest)
    | .boolean b :: rest => .ok (.boolean b, rest)
    | .number (.ok n) _ :: rest => .ok (.number n, rest)
    | .number (.error slip) _ :: _ => slipAt slip ts
    | .string (.ok s) _ :: rest => .ok (.string s, rest)
    | .string (.error slip) _ :: _ => slipAt slip ts
    | .openArray :: rest =>
      if depth ≤ 1 then stopAt .tooDeep ts
      else (readItems budget (depth - 1) true rest).map fun (items, rest) => (.array items, rest)
    | .openObject :: rest =>
      if depth ≤ 1 then stopAt .tooDeep ts
      else (readMembers budget (depth - 1) true rest).map fun (ms, rest) =>
        (Value.ofMembers ms, rest)
    | _ => noValue ts

/-- The items of an array up to its closing bracket; `first` says that none is read yet. -/
def readItems (budget depth : Nat) (first : Bool) (ts : List Token) : Reading (List Value) :=
  match budget with
  | 0 => stopAt .endInArray ts
  | budget + 1 =>
    let item (ts : List Token) : Except Stop (List Value × List Token) := do
      let (v, rest) ← readValue budget depth ts
      let (vs, rest) ← readItems budget depth false rest
      return (v :: vs, rest)
    match ts, first with
    | [], _ => stopAt .endInArray ts
    | .closeArray :: rest, _ => .ok ([], rest)
    | _, true => item ts
    | .comma :: .closeArray :: rest, false => stopAt .trailingComma (.closeArray :: rest)
    | .comma :: rest, false => item rest
    | _, false => stopAt .expectedCommaOrBracket ts

/-- The members of an object up to its closing brace. -/
def readMembers (budget depth : Nat) (first : Bool) (ts : List Token) :
    Reading (List (String × Value)) :=
  match budget with
  | 0 => stopAt .endInObject ts
  | budget + 1 =>
    let member (ts : List Token) : Except Stop (List (String × Value) × List Token) := do
      let (name, rest) ← readName ts
      let (v, rest) ← readValue budget depth (← readColon rest)
      let (ms, rest) ← readMembers budget depth false rest
      return ((name, v) :: ms, rest)
    match ts, first with
    | [], _ => stopAt .endInObject ts
    | .closeObject :: rest, _ => .ok ([], rest)
    | _, true => member ts
    | .comma :: .closeObject :: rest, false => stopAt .trailingComma (.closeObject :: rest)
    | [.comma], false => stopAt .endInValue []
    | .comma :: rest, false => member rest
    | _, false => stopAt .expectedCommaOrBrace ts

end

/-- A place in a text: its line, counted from one, and how many bytes of that line come before. -/
structure Position where
  line : Nat
  column : Nat
deriving DecidableEq, Repr

/-- The position behind a number of bytes, of which one may lie inside a character. -/
def Position.behind (p : Position) : (bytes : Nat) → List Char → Position
  | _, [] => p
  | 0, _ :: _ => p
  | bytes + 1, c :: rest =>
    if c = '\n' then behind ⟨p.line + 1, 0⟩ bytes rest
    else if c.utf8Size ≤ bytes + 1 then
      behind ⟨p.line, p.column + c.utf8Size⟩ (bytes + 1 - c.utf8Size) rest
    else ⟨p.line, p.column + (bytes + 1)⟩

/-- Why a text is refused, and where. -/
structure Error where
  fault : Fault
  position : Position
deriving DecidableEq, Repr

/-- A fault with its place in the text. -/
def Error.message (e : Error) : String :=
  e.fault.message ++ " at line " ++ toString e.position.line ++ " column " ++
    toString e.position.column

/-- The number of bytes that come before the place where a reader stopped. -/
def Stop.offset (s : Stop) (text : List Char) : Nat :=
  let ls := lexemes text
  match ls[ls.length - s.left]? with
  | none => Text.Utf8.size text
  | some l =>
    match s.place with
    | .start => l.start
    | .head => l.start + 1
    | .stop => l.stop
    | .within offset => l.start + offset

/-- Where in the text reading stopped. -/
def Stop.error (s : Stop) (text : List Char) : Error :=
  ⟨s.fault, Position.behind ⟨1, 0⟩ (s.offset text) text⟩

/-- Reads tokens to their end. -/
def readAll (read : List Token → Reading α) (ts : List Token) : Except Stop α := do
  let (x, rest) ← read ts
  if rest.isEmpty then return x
  else .error ⟨.trailingCharacters, rest.length, .head⟩

/-- Reads a whole text. -/
def decodeWith (read : List Token → Reading α) (text : List Char) : Except Error α :=
  (readAll read (tokens text)).mapError (·.error text)

/-- How many brackets may be open at once, and one more. -/
def depthLimit : Nat := 128

/-- Reads a value of any kind. -/
def readWhole (ts : List Token) : Reading Value :=
  readValue (2 * ts.length + 2) depthLimit ts

/-- The value that a text is. -/
def parse (text : List Char) : Except Error Value :=
  decodeWith readWhole text

end Shortlink.Json
