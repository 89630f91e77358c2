/-!
# Punycode

The labels of a domain that stand for text beyond ASCII are written in ASCII behind `xn--`. The
ASCII characters of the text come first, with a hyphen behind the last one. Digits behind it say
which further characters go where: each group of them is a number, its least digit first, that
counts how many places are passed over before the next character is put in.
-/

namespace Shortlink.Url.Punycode

/-- The value of a digit: letters, which are in lower case here, come before the decimal digits. -/
def digit? (c : Char) : Option Nat :=
  if c.isLower then some (c.toNat - 'a'.toNat)
  else if c.isDigit then some (c.toNat - '0'.toNat + 26)
  else none

/-- A text that is being read. -/
structure Draft where
  text : List Char
  /-- The code point of the last character that was put in. -/
  code : Nat := 128
  /-- The place behind it. -/
  place : Nat := 0
  bias : Nat := 72
  /-- Whether no character has been put in. -/
  isFirst : Bool := true
  /-- The number that is being read, the weight of its next digit, and that digit's position. -/
  number : Nat := 0
  weight : Nat := 1
  position : Nat := 36
deriving Repr

/-- A digit below this one ends the number. -/
def Draft.threshold (d : Draft) : Nat := max 1 (min 26 (d.position - d.bias))

/-- Brings a number down to what the bias is made of, in as many steps as are given at most; the
second part counts 36 for each step. -/
def reduce : Nat → Nat → Nat × Nat
  | 0, n => (n, 0)
  | steps + 1, n =>
    if 455 < n then
      let (m, k) := reduce steps (n / 35)
      (m, k + 36)
    else (n, 0)

/-- The bias behind a number, when the text has so many characters. -/
def adapt (number length : Nat) (isFirst : Bool) : Nat :=
  let n := number / (if isFirst then 700 else 2)
  let n := n + n / length
  let (m, k) := reduce n n
  k + 36 * m / (m + 38)

/-- The draft with the character that the finished number stands for. -/
def Draft.putIn (d : Draft) (number : Nat) : Option Draft :=
  let length := d.text.length + 1
  let code := d.code + (d.place + number) / length
  let place := (d.place + number) % length
  if code.isValidChar then
    some {
      text := d.text.insertIdx place (Char.ofNat code)
      code
      place := place + 1
      bias := adapt number length d.isFirst
      isFirst := false }
  else none

/-- The draft with one more digit. -/
def Draft.step (d : Draft) (c : Char) : Option Draft := do
  let v ← digit? c
  let number := d.number + v * d.weight
  if v < d.threshold then d.putIn number
  else
    some { d with number, weight := d.weight * (36 - d.threshold), position := d.position + 36 }

/-- The text behind a draft and more digits, which must not break off inside a number. -/
def Draft.finish (d : Draft) (digits : List Char) : Option (List Char) := do
  let d ← digits.foldlM Draft.step d
  if d.position = 36 then some d.text else none

/-- The text that a label stands for, by what is behind `xn--`. -/
def decode? (cs : List Char) : Option (List Char) :=
  let digits := (cs.reverse.takeWhile (· != '-')).reverse
  let front := cs.take (cs.length - digits.length)
  if front = ['-'] then none else Draft.finish { text := front.dropLast } digits

/-- Whether a label stands for a text beyond ASCII, in which no control may occur. -/
def isEncoded (cs : List Char) : Bool :=
  match decode? cs with
  | some text => text.any (0x80 ≤ ·.toNat) && text.all fun c => c < '\x7f' || 0xA0 < c.toNat
  | none => false

end Shortlink.Url.Punycode
