import Shortlink.Decimal.Style
import Shortlink.Json.Skip

/-!
# Reading into given types

Values that must have a given type, and records of them. A record is written as an object, whose
other members are passed over, or as an array of its fields in order. The fields are collected in a
draft, and a `Shape` lays down how each of them is read and how the draft becomes the record.
-/

namespace Shortlink.Json

/-- A number as a message calls it. -/
def Number.found : Number → Found
  | .integer i => .integer i
  | .float x => .float (Decimal.compactStyle.text x)

/-- A value that is read and not what was expected. -/
def mismatchBehind (m : Mismatch) (ts : List Token) : Reading α :=
  .error ⟨.mismatch m, ts.length, .stop⟩

/-- Stops at a value that is not of the type that is expected. -/
def wrongType (expected : String) (ts : List Token) : Reading α :=
  let found (f : Found) : Reading α := mismatchBehind (.invalidType f expected) ts
  let opening (f : Found) : Reading α :=
    .error ⟨.mismatch (.invalidType f expected), ts.length, .start⟩
  match ts with
  | .null :: _ => found .null
  | .boolean b :: _ => found (.boolean b)
  | .number (.ok n) _ :: _ => found n.found
  | .number (.error slip) _ :: _ => slipAt slip ts
  | .string (.ok s) _ :: _ => found (.string s)
  | .string (.error slip) _ :: _ => slipAt slip ts
  | .openArray :: _ => opening .sequence
  | .openObject :: _ => opening .map
  | _ => noValue ts

/-- Reads a string. -/
def readString (ts : List Token) : Reading String :=
  match ts with
  | .string (.ok s) _ :: rest => .ok (s, rest)
  | _ => wrongType "a string" ts

/-- Reads a truth value. -/
def readBool (ts : List Token) : Reading Bool :=
  match ts with
  | .boolean b :: rest => .ok (b, rest)
  | _ => wrongType "a boolean" ts

/-- Reads a whole number of 64 bits. -/
def readInt64 (ts : List Token) : Reading Int64 :=
  match ts with
  | .number (.ok (.integer i)) _ :: rest =>
    if i < Nat.pow 2 63 then .ok (Int64.ofInt i, rest)
    else mismatchBehind (.invalidValue (.integer i) "i64") ts
  | _ => wrongType "i64" ts

/-- Reads a null. -/
def readUnit (ts : List Token) : Reading Unit :=
  match ts with
  | .null :: rest => .ok ((), rest)
  | _ => wrongType "unit" ts

/-- Reads a value, or a null for none. -/
def readOptional (read : List Token → Reading α) (ts : List Token) : Reading (Option α) :=
  match ts with
  | .null :: rest => .ok (none, rest)
  | _ => (read ts).map fun (x, rest) => (some x, rest)

/-- A field of a record whose fields are collected in a draft `σ`. -/
structure Field (σ : Type) where
  name : String
  /-- Whether an array may end before this field. -/
  optional : Bool
  isRead : σ → Bool
  read : σ → List Token → Reading σ

/-- A field with what reads it, what gets it from a draft, and what puts it there. -/
def Field.of (name : String) (read : List Token → Reading α) (get : σ → Option α)
    (put : α → σ → σ) (optional : Bool) : Field σ where
  name := name
  optional := optional
  isRead := fun draft => (get draft).isSome
  read := fun draft ts => (read ts).map fun (x, rest) => (put x draft, rest)

/-- How a record is read. -/
structure Shape (σ α : Type) where
  name : String
  fields : List (Field σ)
  blank : σ
  /-- The record of a draft, unless a field is missing. -/
  finish : σ → Except Mismatch α

namespace Shape

variable (s : Shape σ α)

/-- What a message expects where an array ends too early. -/
def lengthText : String :=
  "struct " ++ s.name ++ " with " ++ toString s.fields.length ++
    (if s.fields.length = 1 then " element" else " elements")

/-- Stops behind a name that is there a second time, and behind a closing brace that follows it. -/
def repeatedAt (name : String) (rest : List Token) : Reading σ :=
  let place : Place :=
    match rest with
    | .closeObject :: _ => .stop
    | _ => .start
  .error ⟨.mismatch (.duplicateField name), rest.length, place⟩

/-- One member of an object, from its name to its value. -/
def readMember (draft : σ) (ts : List Token) : Except Stop (σ × List Token) := do
  let (name, rest) ← readName ts
  match s.fields.find? (·.name == name) with
  | none => return (draft, ← skipValue (← readColon rest))
  | some f =>
    if f.isRead draft then repeatedAt name rest
    else f.read draft (← readColon rest)

/-- The members of an object up to its closing brace, which is left standing; `first` means that
none is read yet. -/
def readMembers (budget : Nat) (first : Bool) (draft : σ) (ts : List Token) : Reading σ :=
  match budget with
  | 0 => stopAt .endInObject ts
  | budget + 1 =>
    let member (ts : List Token) : Except Stop (σ × List Token) := do
      let (draft, rest) ← s.readMember draft ts
      readMembers budget false draft rest
    match ts, first with
    | [], _ => stopAt .endInObject ts
    | .closeObject :: _, _ => .ok (draft, ts)
    | _, true => member ts
    | .comma :: .closeObject :: rest, false => stopAt .trailingComma (.closeObject :: rest)
    | [.comma], false => stopAt .endInValue []
    | .comma :: rest, false => member rest
    | _, false => stopAt .expectedCommaOrBrace ts

/-- The closing bracket behind the last field of an array. -/
def readEnd (draft : σ) (ts : List Token) : Reading σ :=
  match ts with
  | .closeArray :: _ => .ok (draft, ts)
  | [] => stopAt .endInArray ts
  | .comma :: .closeArray :: rest => stopAt .trailingComma (.closeArray :: rest)
  | .comma :: rest => stopAt .trailingCharacters rest
  | _ => stopAt .trailingCharacters ts

/-- The fields of an array up to its closing bracket, which is left standing; `done` of them are
read. -/
def readFields (done : Nat) : List (Field σ) → σ → List Token → Reading σ
  | [], draft, ts => readEnd draft ts
  | f :: fields, draft, ts =>
    let field (ts : List Token) : Except Stop (σ × List Token) := do
      let (draft, rest) ← f.read draft ts
      readFields (done + 1) fields draft rest
    match ts, done with
    | [], _ => stopAt .endInArray ts
    | .closeArray :: _, _ =>
      if f.optional ∧ fields.all (·.optional) then .ok (draft, ts)
      else mismatchBehind (.invalidLength done s.lengthText) ts
    | _, 0 => field ts
    | .comma :: .closeArray :: rest, _ => stopAt .trailingComma (.closeArray :: rest)
    | .comma :: rest, _ => field rest
    | _, _ => stopAt .expectedCommaOrBracket ts

/-- The record of a draft, in front of the closing bracket. -/
def close (draft : σ) (ts : List Token) : Reading α :=
  match s.finish draft with
  | .ok x => .ok (x, ts.drop 1)
  | .error m => mismatchBehind m ts

/-- Reads a record from an object, or from an array of its fields. -/
def read (ts : List Token) : Except Stop (α × List Token) :=
  match ts with
  | .openObject :: rest => do
    let (draft, rest) ← s.readMembers (rest.length + 1) true s.blank rest
    s.close draft rest
  | .openArray :: rest => do
    let (draft, rest) ← s.readFields 0 s.fields s.blank rest
    s.close draft rest
  | _ => wrongType ("struct " ++ s.name) ts

end Shape

/-- Reads a string that is one of these names. -/
def pickName (choices : List (String × α)) (expected : String) (ts : List Token) : Reading α :=
  match ts with
  | .string (.ok name) _ :: rest =>
    match choices.find? (·.1 == name) with
    | some (_, x) => .ok (x, rest)
    | none => mismatchBehind (.unknownVariant name (choices.map (·.1))) ts
  | _ => wrongType expected ts

/-- One of a few names, alone or as the only member of an object, with the value `null`. -/
def readChoice (choices : List (String × α)) (ts : List Token) : Except Stop (α × List Token) :=
  match ts with
  | [] => stopAt .endInValue ts
  | .string _ _ :: _ => pickName choices "variant identifier" ts
  | .openObject :: rest => do
    let (x, rest) ← pickName choices "variant identifier" rest
    let ((), rest) ← readUnit (← readColon rest)
    match rest with
    | .closeObject :: rest => return (x, rest)
    | [] => stopAt .endInObject rest
    | _ => .error ⟨.expectedValue, rest.length, .start⟩
  | _ => stopAt .expectedValue ts

end Shortlink.Json
