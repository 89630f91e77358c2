import Shortlink.Json.Fault
import Shortlink.Json.Value

/-!
# Numbers as they are written

A `Numeral` is the written form of a number. `Numeral.scan` finds the one that a text begins with,
and `Numeral.value` says which number it stands for: the digits are taken as one whole number while
64 bits hold it, the digits behind only move the point, and the power of ten is multiplied in or
divided out with one rounding at each step.
-/

namespace Shortlink.Json

/-- The power of ten behind a number: its sign and its digits. -/
structure Exponent where
  negative : Bool
  digits : List Char
deriving DecidableEq, Repr

/-- A number as it is written. -/
structure Numeral where
  negative : Bool
  whole : List Char
  /-- The digits behind the point, none when there is no point. -/
  fraction : List Char
  exponent : Option Exponent
deriving DecidableEq, Repr

namespace Numeral

/-- The digits in front of the point: a zero alone, or digits that begin with another one. -/
def scanWhole (offset : Nat) : List Char → Except Slip (List Char × List Char)
  | [] => .error ⟨.endInValue, offset⟩
  | '0' :: rest =>
    match rest with
    | d :: _ => if d.isDigit then .error ⟨.invalidNumber, offset + 2⟩ else .ok (['0'], rest)
    | [] => .ok (['0'], [])
  | c :: rest =>
    if c.isDigit then .ok (c :: rest.takeWhile Char.isDigit, rest.dropWhile Char.isDigit)
    else .error ⟨.invalidNumber, offset + 1⟩

/-- The digits behind the point, if there is a point. -/
def scanFraction (offset : Nat) : List Char → Except Slip (List Char × List Char)
  | '.' :: rest =>
    match rest with
    | [] => .error ⟨.endInValue, offset + 1⟩
    | d :: _ =>
      if d.isDigit then .ok (rest.takeWhile Char.isDigit, rest.dropWhile Char.isDigit)
      else .error ⟨.invalidNumber, offset + 2⟩
  | cs => .ok ([], cs)

/-- The digits of a power of ten, of which there is at least one. -/
def scanExponentDigits (offset : Nat) (negative : Bool) :
    List Char → Except Slip (Option Exponent × List Char)
  | [] => .error ⟨.endInValue, offset⟩
  | d :: rest =>
    if d.isDigit then
      .ok (some ⟨negative, d :: rest.takeWhile Char.isDigit⟩, rest.dropWhile Char.isDigit)
    else .error ⟨.invalidNumber, offset + 1⟩

/-- The exponent of a number, if there is one. -/
def scanExponent (offset : Nat) : List Char → Except Slip (Option Exponent × List Char)
  | c :: rest =>
    if c = 'e' ∨ c = 'E' then
      match rest with
      | '+' :: rest => scanExponentDigits (offset + 2) false rest
      | '-' :: rest => scanExponentDigits (offset + 2) true rest
      | rest => scanExponentDigits (offset + 1) false rest
    else .ok (none, c :: rest)
  | [] => .ok (none, [])

/-- A number behind its sign. -/
def scanUnsigned (offset : Nat) (negative : Bool) (cs : List Char) :
    Except Slip (Numeral × List Char) := do
  let (whole, rest) ← scanWhole offset cs
  let offset := offset + whole.length
  let (fraction, rest) ← scanFraction offset rest
  let offset := if fraction.isEmpty then offset else offset + 1 + fraction.length
  let (exponent, rest) ← scanExponent offset rest
  return (⟨negative, whole, fraction, exponent⟩, rest)

/-- The numeral at the front of a text, and the text behind it. -/
def scan : List Char → Except Slip (Numeral × List Char)
  | '-' :: rest => scanUnsigned 1 true rest
  | cs => scanUnsigned 0 false cs

/-- Takes digits into a whole number as long as 64 bits hold it; gives the digits left over too. -/
def absorb : Nat → List Char → Nat × List Char
  | n, [] => (n, [])
  | n, c :: rest =>
    let next := 10 * n + (c.toNat - '0'.toNat)
    if next < Nat.pow 2 64 then absorb next rest else (n, c :: rest)

/-- The digits of a power of ten as a number, or how many of them it takes to pass 31 bits. -/
def exponentValue (taken n : Nat) : List Char → Except Nat Nat
  | [] => .ok n
  | c :: rest =>
    let next := 10 * n + (c.toNat - '0'.toNat)
    if next < Nat.pow 2 31 then exponentValue (taken + 1) next rest else .error (taken + 1)

open Decimal

/-- Divides by 10^308 a number of times, and stops at zero. -/
def shrink : Nat → Magnitude → Option Magnitude
  | 0, x => some x
  | n + 1, x =>
    if x.mantissa = 0 then some x else do shrink n (← x.div (← Magnitude.powerOfTen 308))

/-- The floating point number for `n · 10^e`: the power is a rounded factor or divisor, one below
10^-308 being divided out in steps. Nothing is given when the result is too large. -/
def scale (n : Nat) (e : Int) : Option Magnitude := do
  let x ← Magnitude.ofRatio n 1
  if 0 ≤ e then
    if e ≤ 308 then x.mul (← Magnitude.powerOfTen e.toNat)
    else if n = 0 then some x
    else none
  else
    let steps := (e.natAbs - 1) / 308
    let x ← shrink steps x
    if x.mantissa = 0 then some x else x.div (← Magnitude.powerOfTen (e.natAbs - 308 * steps))

/-- How many characters the numeral has up to the digits of its power of ten. -/
def lengthBeforeExponent (n : Numeral) : Nat :=
  n.negative.toNat + n.whole.length + (if n.fraction.isEmpty then 0 else 1 + n.fraction.length)

/-- The number that is `digits · 10^point`, up to the numeral's sign and power of ten. The numeral
is `length` characters long, and `mark` of them stand in front of the power's digits. -/
def float (n : Numeral) (length mark digits : Nat) (point : Int) : Except Slip Number :=
  let scaled (e : Int) : Except Slip Number :=
    match scale digits e with
    | some x => .ok (.float ⟨n.negative, x⟩)
    | none => .error ⟨.numberOutOfRange, length⟩
  match n.exponent with
  | none => scaled point
  | some e =>
    match exponentValue 0 0 e.digits with
    | .ok v => scaled (if e.negative then point - v else point + v)
    | .error taken =>
      if digits ≠ 0 ∧ ¬e.negative then
        .error ⟨.numberOutOfRange, n.lengthBeforeExponent + mark + taken⟩
      else .ok (.float ⟨n.negative, .zero⟩)

/-- The number that a numeral stands for, `length` being how many characters it is written with. -/
def value (n : Numeral) (length : Nat) : Except Slip Number :=
  let (digits, left) := absorb 0 n.whole
  if n.fraction.isEmpty ∧ n.exponent.isNone ∧ left.isEmpty then
    if ¬n.negative then .ok (.integer digits)
    else if 0 < digits ∧ digits ≤ Nat.pow 2 63 then .ok (.integer (-digits))
    else n.float length 0 digits 0
  else
    let (digits, unused) := absorb digits n.fraction
    let point : Int := (left.length : Int) - ((n.fraction.length : Int) - unused.length)
    let mark := length - n.lengthBeforeExponent - (n.exponent.map (·.digits.length)).getD 0
    n.float length mark digits point

end Numeral

end Shortlink.Json
