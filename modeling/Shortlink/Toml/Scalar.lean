import Shortlink.Text.Hex
import Shortlink.Text.Pieces
import Shortlink.Toml.Item

/-!
# Values without quotes

Numbers, truth values, dates and times. Such a value extends as far as the characters that can occur
in one, and all of it has to be well formed. Whole numbers have 64 bits and a sign.
-/

namespace Shortlink.Toml

/-- Whether a character may stand in a value without quotes. -/
def isBareValueChar (c : Char) : Bool :=
  c.isAlphanum || c == '+' || c == '-' || c == '_' || c == '.' || c == ':'

/-- Digits between which underscores may stand, without these. -/
def digits? (isDigit : Char → Bool) (cs : List Char) : Option (List Char) :=
  let groups := Text.pieces (· == '_') cs
  if groups.all fun g => !g.isEmpty && g.all isDigit then some groups.flatten else none

def isDigitOf (base : Nat) (c : Char) : Bool := (Text.Hex.digit? c).any (· < base)

def ofDigits (base : Nat) (cs : List Char) : Nat :=
  cs.foldl (fun n c => n * base + (Text.Hex.digit? c).getD 0) 0

/-- Digits of a whole number in decimal form: a zero comes first only when it is alone. -/
def decimalDigits? (cs : List Char) : Option (List Char) :=
  match cs with
  | '0' :: _ :: _ => none
  | cs => digits? Char.isDigit cs

/-- A sign, if there is one: whether it is a minus, and the text behind it. -/
def splitSign : List Char → Bool × List Char
  | '-' :: rest => (true, rest)
  | '+' :: rest => (false, rest)
  | cs => (false, cs)

/-- A whole number, if it has 64 bits with its sign. -/
def integerItem (negative : Bool) (n : Nat) : Option Item :=
  if negative then if n ≤ Nat.pow 2 63 then some (.integer (-n)) else none
  else if n < Nat.pow 2 63 then some (.integer n) else none

/-- A whole number. Only the decimal form has a sign. -/
def integer? (cs : List Char) : Option Item :=
  let based (base : Nat) (cs : List Char) : Option Item := do
    integerItem false (ofDigits base (← digits? (isDigitOf base) cs))
  match cs with
  | '0' :: 'x' :: rest => based 16 rest
  | '0' :: 'o' :: rest => based 8 rest
  | '0' :: 'b' :: rest => based 2 rest
  | cs => do
    let (negative, rest) := splitSign cs
    integerItem negative (ofDigits 10 (← decimalDigits? rest))

/-- The number of an exponent. -/
def exponent? (cs : List Char) : Option Int := do
  let (negative, rest) := splitSign cs
  let n := ofDigits 10 (← digits? Char.isDigit rest)
  return if negative then -n else n

def isExponentMark (c : Char) : Bool := c == 'e' || c == 'E'

/-- The number of digits and a power of ten. One that is too large is infinite, but only below
zero. -/
def realItem (negative : Bool) (n : Nat) (e : Int) : Option Item :=
  match Decimal.Magnitude.ofDecimal n e with
  | some x => some (.float (.finite ⟨negative, x⟩))
  | none => if negative then some (.float (.infinite true)) else none

/-- A number with a point, a power of ten, or both. -/
def float? (cs : List Char) : Option Item := do
  let (negative, rest) := splitSign cs
  let front := rest.takeWhile (!isExponentMark ·)
  let back := rest.dropWhile (!isExponentMark ·)
  let e ← if back.isEmpty then some 0 else exponent? (back.drop 1)
  let whole ← decimalDigits? (front.takeWhile (· != '.'))
  match front.dropWhile (· != '.') with
  | [] => if back.isEmpty then none else realItem negative (ofDigits 10 whole) e
  | _ :: fraction =>
    let fraction ← digits? Char.isDigit fraction
    realItem negative (ofDigits 10 (whole ++ fraction)) (e - fraction.length)

/-- Infinities, and what is no number. -/
def special? (cs : List Char) : Option Item :=
  let (negative, rest) := splitSign cs
  if rest = "inf".toList then some (.float (.infinite negative))
  else if rest = "nan".toList then some (.float .nan)
  else none

/-! ## Dates and times -/

/-- A number of exactly so many digits between two bounds, and the text behind it. -/
def fixed? (count least greatest : Nat) (cs : List Char) : Option (Nat × List Char) :=
  let ds := cs.take count
  let n := ofDigits 10 ds
  if ds.length = count ∧ ds.all Char.isDigit ∧ least ≤ n ∧ n ≤ greatest then some (n, cs.drop count)
  else none

/-- What stands behind a character. -/
def behind? (c : Char) : List Char → Option (List Char)
  | d :: rest => if d = c then some rest else none
  | [] => none

/-- How many days a month has. -/
def daysIn (year month : Nat) : Nat :=
  if month = 2 then
    if year % 4 = 0 ∧ (year % 100 ≠ 0 ∨ year % 400 = 0) then 29 else 28
  else if month = 4 ∨ month = 6 ∨ month = 9 ∨ month = 11 then 30
  else 31

/-- What stands behind a date. -/
def behindDate? (cs : List Char) : Option (List Char) := do
  let (year, rest) ← fixed? 4 0 9999 cs
  let (month, rest) ← fixed? 2 1 12 (← behind? '-' rest)
  let (_, rest) ← fixed? 2 1 (daysIn year month) (← behind? '-' rest)
  return rest

/-- What stands behind a time of the day. -/
def behindTime? (cs : List Char) : Option (List Char) := do
  let (_, rest) ← fixed? 2 0 23 cs
  let (_, rest) ← fixed? 2 0 59 (← behind? ':' rest)
  let (_, rest) ← fixed? 2 0 60 (← behind? ':' rest)
  match rest with
  | '.' :: d :: rest => if d.isDigit then return rest.dropWhile Char.isDigit else none
  | rest => return rest

/-- Whether a text is the offset of a time, or nothing. -/
def isOffset (cs : List Char) : Bool :=
  match cs with
  | [] => true
  | [c] => c == 'Z' || c == 'z'
  | c :: rest =>
    (c == '+' || c == '-') &&
      match fixed? 2 0 23 rest with
      | some (_, rest) => ((behind? ':' rest).bind (fixed? 2 0 59)).any (·.2.isEmpty)
      | none => false

/-- Whether a text is a time with an offset or none. -/
def isTimeWithOffset (cs : List Char) : Bool := (behindTime? cs).any isOffset

def isDate (cs : List Char) : Bool := (behindDate? cs).any List.isEmpty

/-- A date, a time without an offset, or a date and a time with the letter between them. -/
def isMoment (cs : List Char) : Bool :=
  isDate cs || (behindTime? cs).any List.isEmpty ||
    match behindDate? cs with
    | some (c :: rest) => (c == 'T' || c == 't') && isTimeWithOffset rest
    | _ => false

/-- A value without quotes and brackets. -/
def bareValue? (cs : List Char) : Option Item :=
  if cs = "true".toList then some (.boolean true)
  else if cs = "false".toList then some (.boolean false)
  else if isMoment cs then some (.moment (String.ofList cs))
  else special? cs <|> float? cs <|> integer? cs

/-- A value without quotes at the front, and the text behind it. A blank may stand between a date
and a time. -/
def scanBare (cs : List Char) : Option (Item × List Char) := do
  let front := cs.takeWhile isBareValueChar
  let rest := cs.dropWhile isBareValueChar
  let time := (rest.drop 1).takeWhile isBareValueChar
  if isDate front && rest.head? = some ' ' && isTimeWithOffset time then
    return (.moment (String.ofList (front ++ ' ' :: time)), (rest.drop 1).dropWhile isBareValueChar)
  else return (← bareValue? front, rest)

end Shortlink.Toml
