import Shortlink.Json.Reader

/-!
# Passing over a value

A member that a record does not have is passed over without being looked at: only the brackets, the
commas and the colons have to be in order. Its faults are those of a reader that sees one token at a
time, so a comma in front of a closing bracket is a value that is missing. There is no limit on the
depth.
-/

namespace Shortlink.Json

/-- A bracket that is open. -/
inductive Bracket
  | array
  | object
deriving DecidableEq, Repr

/-- What may come next. -/
inductive Want
  | value
  /-- The bracket has just been opened. -/
  | first
  | name
  | colon
  /-- A value has just been passed. -/
  | more
deriving DecidableEq, Repr

/-- What is wrong where the text ends inside a bracket. -/
def Bracket.endFault : Bracket → Fault
  | .array => .endInArray
  | .object => .endInObject

/-- What is wrong where an item is followed by something else than a comma. -/
def Bracket.moreFault : Bracket → Fault
  | .array => .expectedCommaOrBracket
  | .object => .expectedCommaOrBrace

/-- The fault of a text that ends where something is wanted. -/
def Want.endFault : Want → Bracket → Fault
  | .value, _ => .endInValue
  | .first, b => b.endFault
  | .more, b => b.endFault
  | .name, _ => .endInObject
  | .colon, _ => .endInObject

/-- Whether a token closes a bracket. -/
def Bracket.isClosedBy : Bracket → Token → Bool
  | .array, .closeArray => true
  | .object, .closeObject => true
  | _, _ => false

/-- The brackets still open and what is wanted behind a token that stands for a value. -/
def passValue (opened : List Bracket) (t : Token) (ts : List Token) :
    Except Stop (List Bracket × Want) :=
  match t with
  | .null | .boolean _ | .number _ none | .string _ none => .ok (opened, .more)
  | .number _ (some slip) | .string _ (some slip) | .stray slip =>
    .error ⟨slip.fault, ts.length, .within slip.offset⟩
  | .openArray => .ok (.array :: opened, .first)
  | .openObject => .ok (.object :: opened, .first)
  | _ => .error ⟨.expectedValue, ts.length, .head⟩

/-- Passes over the name of a member. -/
def passName (opened : List Bracket) (t : Token) (ts : List Token) :
    Except Stop (List Bracket × Want) :=
  match t with
  | .string _ none => .ok (opened, .colon)
  | .string _ (some slip) => .error ⟨slip.fault, ts.length, .within slip.offset⟩
  | _ => .error ⟨.keyNotString, ts.length, .head⟩

/-- The same for any token, in the innermost of the open brackets. `ts` begins with the token. -/
def pass (want : Want) (opened : List Bracket) (t : Token) (ts : List Token) :
    Except Stop (List Bracket × Want) :=
  match want, opened with
  | .value, _ => passValue opened t ts
  | .name, _ => passName opened t ts
  | .colon, _ =>
    match t with
    | .colon => .ok (opened, .value)
    | _ => .error ⟨.expectedColon, ts.length, .head⟩
  | .first, b :: outer =>
    if b.isClosedBy t then .ok (outer, .more)
    else if b = .array then passValue opened t ts
    else passName opened t ts
  | .more, b :: outer =>
    if b.isClosedBy t then .ok (outer, .more)
    else
      match t with
      | .comma => .ok (opened, if b = .array then .value else .name)
      | _ => .error ⟨b.moreFault, ts.length, .head⟩
  | _, [] => .ok ([], .more)

/-- The tokens behind what is wanted and behind all brackets that are open, innermost first. -/
def skip : (opened : List Bracket) → Want → List Token → Except Stop (List Token)
  | [], .more, ts => .ok ts
  | opened, want, [] => .error ⟨want.endFault (opened.headD .array), 0, .head⟩
  | opened, want, t :: rest => do
    let (opened, want) ← pass want opened t (t :: rest)
    skip opened want rest

/-- Passes over a value. -/
def skipValue (ts : List Token) : Except Stop (List Token) :=
  skip [] .value ts

end Shortlink.Json
