import Shortlink.Toml.Quoted
import Shortlink.Toml.Scalar
import Shortlink.Toml.Table

/-!
# Reading a document

A document is a sequence of lines: keys with their values, and headers. Arrays may extend over
several lines; tables in braces may not, but for what is inside their arrays.
-/

namespace Shortlink.Toml

/-- Whether a character may stand in a key without quotes. -/
def isBareKeyChar (c : Char) : Bool := c.isAlphanum || c == '_' || c == '-'

def dropSpaces (cs : List Char) : List Char := cs.dropWhile isSpace

/-- Drops a comment. Only characters of a text may stand in it; at any other the comment ends. -/
def dropComment : List Char → List Char
  | '#' :: rest => rest.dropWhile isTextChar
  | cs => cs

/-- A part of a key, quoted or not, and what stands behind it. -/
def scanKeyPart (cs : List Char) : Option (String × List Char) :=
  match cs with
  | '"' :: rest => (scanBasic 0 rest).map fun (s, rest) => (String.ofList s, rest)
  | '\'' :: rest => (scanLiteral rest).map fun (s, rest) => (String.ofList s, rest)
  | cs =>
    let part := cs.takeWhile isBareKeyChar
    if part.isEmpty then none else some (String.ofList part, cs.dropWhile isBareKeyChar)

/-- A key with its blanks, and the text behind it. -/
def scanKey (budget : Nat) (cs : List Char) : Option (KeyPath × List Char) :=
  match budget with
  | 0 => none
  | budget + 1 => do
    let (part, rest) ← scanKeyPart (dropSpaces cs)
    match dropSpaces rest with
    | '.' :: rest =>
      let (path, rest) ← scanKey budget rest
      return (part :: path, rest)
    | rest => return ([part], rest)

/-- How many parts a key may have, and how deep values may be nested. -/
def nestingLimit : Nat := 80

def scanShortKey (cs : List Char) : Option (KeyPath × List Char) :=
  (scanKey (cs.length + 1) cs).filter fun (path, _) => path.length < nestingLimit

/-- A text without the blanks, line ends and comments in front. -/
def dropBlankLines (budget : Nat) (cs : List Char) : List Char :=
  match budget with
  | 0 => cs
  | budget + 1 =>
    match cs with
    | '#' :: _ => dropBlankLines budget (dropComment cs)
    | c :: rest =>
      if isSpace c then dropBlankLines budget rest
      else
        match behindNewline? cs with
        | some rest => dropBlankLines budget rest
        | none => cs
    | [] => []

/-- The text from the next item on, behind all blanks, line ends and comments. -/
def nextItem (cs : List Char) : List Char := dropBlankLines (cs.length + 1) cs

mutual

/-- A value, and the text behind it. `depth` values are around it. -/
def scanValue (budget depth : Nat) (cs : List Char) : Option (Item × List Char) :=
  match budget with
  | 0 => none
  | budget + 1 =>
    match cs with
    | '[' :: rest =>
      if nestingLimit ≤ depth + 1 then none
      else (scanItems budget (depth + 1) rest).map fun (items, rest) => (.array items, rest)
    | '{' :: rest =>
      if nestingLimit ≤ depth + 1 then none
      else (scanPairs budget (depth + 1) true [] rest).map fun (es, rest) =>
        (.inline .explicit es, rest)
    | c :: _ =>
      if c == '"' || c == '\'' then
        (scanString cs).map fun (s, rest) => (.string (String.ofList s), rest)
      else scanBare cs
    | [] => none

/-- The items of an array up to its closing bracket; a comma may stand behind the last one. -/
def scanItems (budget depth : Nat) (cs : List Char) : Option (List Item × List Char) :=
  match budget with
  | 0 => none
  | budget + 1 =>
    match nextItem cs with
    | ']' :: rest => some ([], rest)
    | cs => do
      let (item, rest) ← scanValue budget depth cs
      match nextItem rest with
      | ']' :: rest => return ([item], rest)
      | ',' :: rest =>
        let (items, rest) ← scanItems budget depth rest
        return (item :: items, rest)
      | _ => none

/-- The keys of a table in braces up to the closing one; `first` tells that none is read yet. -/
def scanPairs (budget depth : Nat) (first : Bool) (es : Entries) (cs : List Char) :
    Option (Entries × List Char) :=
  match budget with
  | 0 => none
  | budget + 1 =>
    match dropSpaces cs, first with
    | '}' :: rest, true => some ([], rest)
    | cs, _ => do
      let (path, rest) ← scanShortKey cs
      let (item, rest) ← scanValue budget depth (dropSpaces (← behind? '=' rest))
      let es ← putInline item path es
      match dropSpaces rest with
      | '}' :: rest => return (es, rest)
      | ',' :: rest => scanPairs budget depth false es rest
      | _ => none

end

/-- The text of the next line, when nothing but blanks and a comment are left of this one. -/
def behindLine? (cs : List Char) : Option (List Char) :=
  match dropComment (dropSpaces cs) with
  | [] => some []
  | cs => behindNewline? cs

/-- The parts of a key in front of the last one, and that one. -/
def splitLast (path : KeyPath) : Option (KeyPath × String) :=
  path.getLast?.map fun key => (path.dropLast, key)

/-- What a line does to a document, and the text behind the line. -/
def scanLine (d : Draft) (cs : List Char) : Option (Draft × List Char) :=
  match cs with
  | '[' :: '[' :: rest => do
    let (path, rest) ← scanShortKey rest
    let (path, key) ← splitLast path
    let rest ← behindLine? (← behind? ']' (← behind? ']' rest))
    return (← d.openElement path key, rest)
  | '[' :: rest => do
    let (path, rest) ← scanShortKey rest
    let (path, key) ← splitLast path
    let rest ← behindLine? (← behind? ']' rest)
    return (← d.openTable path key, rest)
  | cs => do
    let (path, rest) ← scanShortKey cs
    let rest := dropSpaces (← behind? '=' rest)
    let (item, rest) ← scanValue (2 * rest.length + 2) 0 rest
    let rest ← behindLine? rest
    return (← d.set path item, rest)

/-- Reads the lines of a file one after the other. -/
def scanLines (budget : Nat) (d : Draft) (cs : List Char) : Option Draft :=
  match budget with
  | 0 => none
  | budget + 1 =>
    match dropSpaces cs with
    | [] => some d
    | c :: rest =>
      if c == '#' || (behindNewline? (c :: rest)).isSome then do
        scanLines budget d (← behindLine? (c :: rest))
      else do
        let (d, rest) ← scanLine d (c :: rest)
        scanLines budget d rest

/-- The entries of a document, in their order. A mark of the byte order may come first. -/
def parse (s : String) : Option Entries :=
  let cs := s.toList
  let cs := if cs.head? = some '\uFEFF' then cs.drop 1 else cs
  (scanLines (cs.length + 1) {} cs).bind Draft.close

end Shortlink.Toml
