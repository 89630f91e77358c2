import Shortlink.Text.Hex

/-!
# Values in quotes

Strings in double quotes have escapes, those in single quotes have none. In three quotes of either
kind a string may extend over several lines, and one or two quotes may stand inside. Line ends are
line feeds, with or without a carriage return in front, and are read as line feeds.
-/

namespace Shortlink.Toml

/-- Whether a character is a blank within a line. -/
def isSpace (c : Char) : Bool := c == ' ' || c == '\t'

/-- Characters that may stand in a string or a comment as they are. -/
def isTextChar (c : Char) : Bool := c == '\t' || (' ' ≤ c && c != '\x7f')

/-- What stands behind a line end, in either spelling. -/
def behindNewline? : List Char → Option (List Char)
  | '\n' :: rest => some rest
  | '\r' :: '\n' :: rest => some rest
  | _ => none

/-- The text behind a line end at the front, if there is one. -/
def dropNewline (cs : List Char) : List Char := (behindNewline? cs).getD cs

/-- A character by its code point in so many hexadecimal digits, and the text behind them. -/
def codePoint? (count : Nat) (cs : List Char) : Option (Char × List Char) := do
  let ds ← (cs.take count).mapM Text.Hex.digit?
  let n := ds.foldl (fun n d => n * 16 + d) 0
  if ds.length = count ∧ n.isValidChar then return (Char.ofNat n, cs.drop count) else none

/-- The character that an escape stands for, and how many more characters the escape has than the
backslash and its letter. -/
def escape? (c : Char) (rest : List Char) : Option (Char × Nat) :=
  match c with
  | 'b' => some ('\x08', 0)
  | 'f' => some ('\x0c', 0)
  | 'n' => some ('\n', 0)
  | 'r' => some ('\r', 0)
  | 't' => some ('\t', 0)
  | '"' => some ('"', 0)
  | '\\' => some ('\\', 0)
  | 'u' => (codePoint? 4 rest).map fun (c, _) => (c, 4)
  | 'U' => (codePoint? 8 rest).map fun (c, _) => (c, 8)
  | _ => none

/-- A character in front of what is read behind it. -/
def consChar (c : Char) (r : Option (List Char × List Char)) : Option (List Char × List Char) :=
  r.map fun (text, rest) => (c :: text, rest)

/-- The text of a string in double quotes behind the opening one, and what stands behind the closing
one; `skip` characters belong to an escape already read. -/
def scanBasic : (skip : Nat) → List Char → Option (List Char × List Char)
  | _, [] => none
  | skip + 1, _ :: rest => scanBasic skip rest
  | 0, '"' :: rest => some ([], rest)
  | 0, '\\' :: c :: rest => do
    let (x, used) ← escape? c rest
    consChar x (scanBasic used rest)
  | 0, c :: rest => if isTextChar c && c != '\\' then consChar c (scanBasic 0 rest) else none

/-- The text of a string in single quotes behind the opening one, and what stands behind it. -/
def scanLiteral : List Char → Option (List Char × List Char)
  | [] => none
  | '\'' :: rest => some ([], rest)
  | c :: rest => if isTextChar c then consChar c (scanLiteral rest) else none

/-- The quotes at the end of a string in three quotes: up to two that belong to the string come in
front of the closing ones. -/
def closing? (quote : Char) (cs : List Char) : Option (List Char × List Char) :=
  let run := (cs.takeWhile (· == quote)).length
  if run < 3 then none
  else
    let inside := min 2 (run - 3)
    some (List.replicate inside quote, cs.drop (inside + 3))

/-- Whether a backslash ends the line, but for blanks behind it. -/
def endsLine (rest : List Char) : Bool := (behindNewline? (rest.dropWhile isSpace)).isSome

/-- How many blanks and line ends stand in front. -/
def blankRun : List Char → Nat
  | '\r' :: '\n' :: rest => 2 + blankRun rest
  | c :: rest => if isSpace c || c == '\n' then 1 + blankRun rest else 0
  | [] => 0

/-- The text of a string in three double quotes. A backslash at the end of a line takes away all
blanks up to the next character. -/
def scanLongBasic : (skip : Nat) → List Char → Option (List Char × List Char)
  | _, [] => none
  | skip + 1, _ :: rest => scanLongBasic skip rest
  | 0, '"' :: rest =>
    match closing? '"' ('"' :: rest) with
    | some done => some done
    | none => consChar '"' (scanLongBasic 0 rest)
  | 0, '\\' :: c :: rest =>
    if endsLine (c :: rest) then scanLongBasic (blankRun (c :: rest)) (c :: rest)
    else do
      let (x, used) ← escape? c rest
      consChar x (scanLongBasic used rest)
  | 0, '\r' :: '\n' :: rest => consChar '\n' (scanLongBasic 0 rest)
  | 0, c :: rest =>
    if c == '\n' || (isTextChar c && c != '\\') then consChar c (scanLongBasic 0 rest) else none

/-- The text up to three quotes, and what stands behind them. It is taken as it is. -/
def scanLongLiteral : List Char → Option (List Char × List Char)
  | [] => none
  | '\'' :: rest =>
    match closing? '\'' ('\'' :: rest) with
    | some done => some done
    | none => consChar '\'' (scanLongLiteral rest)
  | '\r' :: '\n' :: rest => consChar '\n' (scanLongLiteral rest)
  | c :: rest => if c == '\n' || isTextChar c then consChar c (scanLongLiteral rest) else none

/-- A string of any kind at the front, and the text behind it. -/
def scanString (cs : List Char) : Option (List Char × List Char) :=
  match cs with
  | '"' :: '"' :: '"' :: rest => scanLongBasic 0 (dropNewline rest)
  | '\'' :: '\'' :: '\'' :: rest => scanLongLiteral (dropNewline rest)
  | '"' :: rest => scanBasic 0 rest
  | '\'' :: rest => scanLiteral rest
  | _ => none

end Shortlink.Toml
