import Shortlink.Text.Hex
import Shortlink.Text.Hidden

/-!
# Quoted text

How a message quotes a text that it cannot take for granted: in double quotes, with a backslash
before a double quote or a backslash, short escapes for the common controls, and the code point in
hexadecimal for every other character that does not show.
-/

namespace Shortlink.Text

/-- A character as it stands in quotes: escaped if it cannot be seen or would end them. -/
def quoteChar (c : Char) : String :=
  match c with
  | '"' => "\\\""
  | '\\' => "\\\\"
  | '\n' => "\\n"
  | '\r' => "\\r"
  | '\t' => "\\t"
  | '\x00' => "\\0"
  | c => if isHidden c then "\\u\x7b" ++ Hex.text c.toNat ++ "\x7d" else c.toString

/-- A text in quotes. -/
def quoted (s : String) : String :=
  "\"" ++ String.join (s.toList.map quoteChar) ++ "\""

end Shortlink.Text
