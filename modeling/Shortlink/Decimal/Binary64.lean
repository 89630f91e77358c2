/-!
# Binary floating point, exactly

The finite numbers of the 64-bit binary format as a sign, a mantissa below 2^53 and a power of two.
All arithmetic is on natural numbers: the exact quotient is formed first and rounded once, to the
nearest number of the format, a tie going to the even mantissa.
-/

namespace Shortlink.Decimal

/-- A magnitude `mantissa · 2^exponent` of the format. -/
structure Magnitude where
  mantissa : Nat
  exponent : Int
deriving DecidableEq, Repr

/-- A finite number of the format. Zero has a sign too. -/
structure Binary64 where
  negative : Bool
  magnitude : Magnitude
deriving DecidableEq, Repr

/-- The quotient rounded to the nearest natural number, a tie to the even one. -/
def roundDiv (num den : Nat) : Nat :=
  let q := num / den
  let twice := 2 * (num % den)
  if twice < den then q
  else if den < twice then q + 1
  else if q % 2 = 0 then q else q + 1

namespace Magnitude

def leastExponent : Int := -1074

def greatestExponent : Int := 971

def zero : Magnitude := ⟨0, leastExponent⟩

/-- The exponent at which `num / den` has 53 bits before the point, or the least one. -/
def exponentFor (num den : Nat) : Int :=
  let k : Int := (Nat.log2 num : Int) - (Nat.log2 den : Int)
  let full := if den * Nat.pow 2 k.toNat ≤ num * Nat.pow 2 (-k).toNat then k else k - 1
  max (full - 52) leastExponent

/-- The number nearest to `num / den`, or nothing when it is too large for the format. -/
def ofRatio (num den : Nat) : Option Magnitude :=
  if num = 0 then some zero else
    let e := exponentFor num den
    let m := roundDiv (num * Nat.pow 2 (-e).toNat) (den * Nat.pow 2 e.toNat)
    let r : Magnitude := if m = Nat.pow 2 53 then ⟨Nat.pow 2 52, e + 1⟩ else ⟨m, e⟩
    if r.exponent ≤ greatestExponent then some r else none

/-- The number over its denominator. -/
def numerator (x : Magnitude) : Nat := x.mantissa * Nat.pow 2 x.exponent.toNat

/-- What the number is to be divided by, where its exponent is below zero. -/
def denominator (x : Magnitude) : Nat := Nat.pow 2 (-x.exponent).toNat

/-- The product, rounded, if it is not too large. -/
def mul (x y : Magnitude) : Option Magnitude :=
  ofRatio (x.numerator * y.numerator) (x.denominator * y.denominator)

/-- The quotient, rounded, if it is not too large. -/
def div (x y : Magnitude) : Option Magnitude :=
  ofRatio (x.numerator * y.denominator) (x.denominator * y.numerator)

/-- A power of ten, rounded, if it is not too large. -/
def powerOfTen (n : Nat) : Option Magnitude := ofRatio (Nat.pow 10 n) 1

/-- The number nearest to `digits · 10^exponent`. Powers that are far outside of the format are not
multiplied out. -/
def ofDecimal (digits : Nat) (exponent : Int) : Option Magnitude :=
  let first := exponent + (Nat.toDigits 10 digits).length
  if digits = 0 ∨ first < -400 then some zero
  else if 400 < first then none
  else ofRatio (digits * Nat.pow 10 exponent.toNat) (Nat.pow 10 (-exponent).toNat)

end Magnitude

end Shortlink.Decimal
