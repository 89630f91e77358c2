import Shortlink.Decimal.Style
import Shortlink.Json.Value
import Shortlink.Text.Hex

/-!
# Writing JSON

The compact form: no blanks, members in the order in which the object holds them, and in strings an
escape only where the format demands one.
-/

namespace Shortlink.Json

/-- A character of a string: behind a backslash, by its number, or as it is. -/
def writeChar (c : Char) : List Char :=
  match c with
  | '"' => ['\\', '"']
  | '\\' => ['\\', '\\']
  | '\x08' => ['\\', 'b']
  | '\x0c' => ['\\', 'f']
  | '\n' => ['\\', 'n']
  | '\r' => ['\\', 'r']
  | '\t' => ['\\', 't']
  | c =>
    if c < ' ' then
      ['\\', 'u', '0', '0', Text.Hex.lowerDigit (c.toNat / 16), Text.Hex.lowerDigit (c.toNat % 16)]
    else [c]

/-- A string between its quotes. -/
def writeString (s : String) : List Char :=
  '"' :: s.toList.flatMap writeChar ++ ['"']

/-- A whole number in decimal digits. -/
def writeInt (i : Int) : List Char :=
  if i < 0 then '-' :: Nat.toDigits 10 i.natAbs else Nat.toDigits 10 i.natAbs

/-- A number, whole or not. -/
def Number.write : Number → List Char
  | .integer i => writeInt i
  | .float x => (Decimal.compactStyle.text x).toList

namespace Value

mutual

/-- A value, with no blanks between its parts. -/
def write : Value → List Char
  | .null => ['n', 'u', 'l', 'l']
  | .boolean true => ['t', 'r', 'u', 'e']
  | .boolean false => ['f', 'a', 'l', 's', 'e']
  | .number n => n.write
  | .string s => writeString s
  | .array items => '[' :: writeItems true items ++ [']']
  | .object members => '{' :: writeMembers true members ++ ['}']

/-- The items of an array; the first has no comma in front. -/
def writeItems (first : Bool) : List Value → List Char
  | [] => []
  | v :: rest => (if first then [] else [',']) ++ v.write ++ writeItems false rest

/-- The members of an object; the first has no comma in front. -/
def writeMembers (first : Bool) : List (String × Value) → List Char
  | [] => []
  | (name, v) :: rest =>
    (if first then [] else [',']) ++ writeString name ++ ':' :: v.write ++ writeMembers false rest

end

/-- The text of a value. -/
def text (v : Value) : String := String.ofList v.write

/-- A string, or null where there is none. -/
def ofString? : Option String → Value
  | some s => .string s
  | none => .null

end Value

end Shortlink.Json
