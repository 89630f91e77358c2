/-!
# Hexadecimal digits

Digits are read in either case. They are written in lower case by `lowerDigit` and `text`, and in
upper case by `upperDigit`.
-/

namespace Shortlink.Text.Hex

/-- The number that a hexadecimal digit stands for, in either case. -/
def digit? (c : Char) : Option Nat :=
  if c.isDigit then some (c.toNat - '0'.toNat)
  else if 'a' ≤ c ∧ c ≤ 'f' then some (c.toNat - 'a'.toNat + 10)
  else if 'A' ≤ c ∧ c ≤ 'F' then some (c.toNat - 'A'.toNat + 10)
  else none

/-- The hexadecimal digit of a number below 16, in lower case. -/
def lowerDigit (n : Nat) : Char := Nat.digitChar n

/-- The digit of a value below 16, in upper case. -/
def upperDigit (n : Nat) : Char := (Nat.digitChar n).toUpper

/-- A digit that is written is read as its value. -/
theorem digit?_lowerDigit {n : Nat} (h : n < 16) : digit? (lowerDigit n) = some n := by
  have all : ∀ m ∈ List.range 16, digit? (lowerDigit m) = some m := by decide
  exact all n (List.mem_range.mpr h)

/-- The case does not matter. -/
theorem digit?_upperDigit {n : Nat} (h : n < 16) : digit? (upperDigit n) = some n := by
  have all : ∀ m ∈ List.range 16, digit? (upperDigit m) = some m := by decide
  exact all n (List.mem_range.mpr h)

/-- A number in hexadecimal digits. -/
def text (n : Nat) : String :=
  String.ofList (Nat.toDigits 16 n)

end Shortlink.Text.Hex
