import Shortlink.Decimal.Binary64

/-!
# The shortest decimal that reads back

The fewest significant digits that identify a number of the binary format among its neighbours,
and among the decimals of that length the one nearest to it. On the decimal grid of each length only
the two neighbours of the number have to be tried.
-/

namespace Shortlink.Decimal

/-- A decimal `d₁.d₂d₃… · 10^exponent`, by its digits as one number. -/
structure Scientific where
  digits : Nat
  /-- The power of ten of the first digit. -/
  exponent : Int
deriving DecidableEq, Repr

namespace Magnitude

/-- The numbers that round to `x` lie between these numerators, over the denominator
`4 · x.denominator`: half a step to either side, a quarter step below a power of two. -/
def bounds (x : Magnitude) : Nat × Nat :=
  let step := Nat.pow 2 x.exponent.toNat
  let below := if x.mantissa = Nat.pow 2 52 ∧ leastExponent < x.exponent then step else 2 * step
  (4 * x.numerator - below, 4 * x.numerator + 2 * step)

/-- Whether `num / den` rounds to `x`: the ends of the interval do when the mantissa is even. -/
def readsBack (x : Magnitude) (num den : Nat) : Bool :=
  let (low, high) := x.bounds
  let scaled := 4 * x.denominator * num
  if x.mantissa % 2 = 0 then low * den ≤ scaled && scaled ≤ high * den
  else low * den < scaled && scaled < high * den

/-- The power of ten of the first digit, starting from an estimate that is at most a few off. -/
def firstDigitFrom (num den : Nat) : Nat → Int → Int
  | 0, e => e
  | n + 1, e =>
    if num * Nat.pow 10 (-(e + 1)).toNat < den * Nat.pow 10 (e + 1).toNat then e
    else firstDigitFrom num den n (e + 1)

/-- The power of ten of the first digit of a number that is not zero. -/
def firstDigit (x : Magnitude) : Int :=
  let estimate := (((Nat.log2 x.mantissa : Int) + x.exponent) * 30103).fdiv 100000 - 1
  firstDigitFrom x.numerator x.denominator 4 estimate

/-- The best decimal of `n` digits that reads back, if there is one. -/
def candidate (x : Magnitude) (n : Nat) : Option Nat :=
  let shift : Int := (n : Int) - 1 - x.firstDigit
  let num := x.numerator * Nat.pow 10 shift.toNat
  let den := x.denominator * Nat.pow 10 (-shift).toNat
  let lower := num / den
  let reads (d : Nat) : Bool := x.readsBack (d * Nat.pow 10 (-shift).toNat) (Nat.pow 10 shift.toNat)
  let nearest := roundDiv num den
  if reads nearest then some nearest
  else if reads lower then some lower
  else if reads (lower + 1) then some (lower + 1)
  else none

/-- Takes trailing zeros off a number of at most `n` digits. -/
def dropZeros : Nat → Nat → Nat
  | 0, d => d
  | n + 1, d => if d % 10 = 0 ∧ d ≠ 0 then dropZeros n (d / 10) else d

def shortest (x : Magnitude) : Scientific :=
  if x.mantissa = 0 then ⟨0, 0⟩ else
    let d := ((List.range 17).findSome? fun n => (x.candidate (n + 1)).map (·, n + 1)).getD (0, 1)
    -- Rounding up may have carried into a new first digit.
    let carry := if Nat.pow 10 d.2 ≤ d.1 then 1 else 0
    ⟨dropZeros 17 d.1, x.firstDigit + carry⟩

end Magnitude

end Shortlink.Decimal
