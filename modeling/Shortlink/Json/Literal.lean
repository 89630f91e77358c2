import Shortlink.Json.Fault
import Shortlink.Text.Hex
import Shortlink.Text.Utf8

/-!
# Strings and words as they are written

A string literal is read in two ways. `readBody` gives the text it stands for and refuses escapes
that name half of a surrogate pair; `skipBody` only finds its end. Both begin behind the opening
quote. The offsets of slips count the bytes of the token, that quote included.
-/

namespace Shortlink.Json

/-- The number of four hexadecimal digits. -/
def hexUnit? (a b c d : Char) : Option Nat := do
  let high := (← Text.Hex.digit? a) * 16 + (← Text.Hex.digit? b)
  let low := (← Text.Hex.digit? c) * 16 + (← Text.Hex.digit? d)
  return high * 256 + low

/-- The slip when no four digits stand in front: four bytes that are something else, or the end of
the text. -/
def unitSlip (offset : Nat) (cs : List Char) : Slip :=
  if Text.Utf8.size cs < 4 then ⟨.endInString, offset + Text.Utf8.size cs⟩
  else ⟨.invalidEscape, offset + 4⟩

/-- The character that a backslash and a single character stand for. -/
def simpleEscape? : Char → Option Char
  | '"' => some '"'
  | '\\' => some '\\'
  | '/' => some '/'
  | 'b' => some '\x08'
  | 'f' => some '\x0c'
  | 'n' => some '\n'
  | 'r' => some '\r'
  | 't' => some '\t'
  | _ => none

/-- Whether a unit is the first half of a pair. -/
def isHighSurrogate (n : Nat) : Bool := 0xD800 ≤ n && n ≤ 0xDBFF

/-- Whether a unit is the second half of a pair. -/
def isLowSurrogate (n : Nat) : Bool := 0xDC00 ≤ n && n ≤ 0xDFFF

/-- The character that a surrogate pair stands for. -/
def ofSurrogates (high low : Nat) : Char :=
  Char.ofNat ((high - 0xD800) * 0x400 + (low - 0xDC00) + 0x10000)

/-- A character in front of what is read behind it. -/
def consChar (c : Char) (r : Except Slip (List Char × List Char)) :
    Except Slip (List Char × List Char) :=
  r.map fun (text, rest) => (c :: text, rest)

/-- The text of a string literal, and what stands behind its closing quote. -/
def readBody (offset : Nat) : List Char → Except Slip (List Char × List Char)
  | [] => .error ⟨.endInString, offset⟩
  | '"' :: rest => .ok ([], rest)
  | ['\\'] => .error ⟨.endInString, offset + 1⟩
  | '\\' :: 'u' :: a :: b :: c :: d :: rest =>
    match hexUnit? a b c d with
    | none => .error (unitSlip (offset + 2) (a :: b :: c :: d :: rest))
    | some n =>
      if isLowSurrogate n then .error ⟨.loneSurrogate, offset + 6⟩
      else if isHighSurrogate n then
        match rest with
        | [] => .error ⟨.endInString, offset + 6⟩
        | ['\\'] => .error ⟨.endInString, offset + 7⟩
        | '\\' :: 'u' :: e :: f :: g :: h :: rest =>
          match hexUnit? e f g h with
          | none => .error (unitSlip (offset + 8) (e :: f :: g :: h :: rest))
          | some m =>
            if isLowSurrogate m then consChar (ofSurrogates n m) (readBody (offset + 12) rest)
            else .error ⟨.loneSurrogate, offset + 12⟩
        | '\\' :: 'u' :: short => .error (unitSlip (offset + 8) short)
        | '\\' :: _ :: _ => .error ⟨.brokenSurrogatePair, offset + 8⟩
        | _ :: _ => .error ⟨.brokenSurrogatePair, offset + 7⟩
      else consChar (Char.ofNat n) (readBody (offset + 6) rest)
  | '\\' :: 'u' :: short => .error (unitSlip (offset + 2) short)
  | '\\' :: c :: rest =>
    match simpleEscape? c with
    | some x => consChar x (readBody (offset + 2) rest)
    | none => .error ⟨.invalidEscape, offset + 2⟩
  | c :: rest =>
    if c < ' ' then .error ⟨.controlCharacter, offset + 1⟩
    else consChar c (readBody (offset + c.utf8Size) rest)

/-- What stands behind the closing quote of a string literal whose text does not matter. -/
def skipBody (offset : Nat) : List Char → Except Slip (List Char)
  | [] => .error ⟨.endInString, offset⟩
  | '"' :: rest => .ok rest
  | ['\\'] => .error ⟨.endInString, offset + 1⟩
  | '\\' :: 'u' :: a :: b :: c :: d :: rest =>
    match hexUnit? a b c d with
    | none => .error (unitSlip (offset + 2) (a :: b :: c :: d :: rest))
    | some _ => skipBody (offset + 6) rest
  | '\\' :: 'u' :: short => .error (unitSlip (offset + 2) short)
  | '\\' :: c :: rest =>
    match simpleEscape? c with
    | some _ => skipBody (offset + 2) rest
    | none => .error ⟨.invalidEscape, offset + 2⟩
  | c :: rest =>
    if c < ' ' then .error ⟨.controlCharacter, offset⟩
    else skipBody (offset + c.utf8Size) rest

/-- What stands behind a word of which the first `offset` characters are already read. -/
def skipWord (offset : Nat) : (word : List Char) → List Char → Except Slip (List Char)
  | [], cs => .ok cs
  | _ :: _, [] => .error ⟨.endInValue, offset⟩
  | w :: word, c :: cs =>
    if c = w then skipWord (offset + 1) word cs else .error ⟨.expectedWord, offset + 1⟩

end Shortlink.Json
