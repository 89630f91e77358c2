import Shortlink.Decimal.Shortest

/-!
# Writing a decimal

A `Style` fixes what a format decides about the text of a decimal: for which powers of ten the
digits stand in their places, and how the power is written otherwise.
-/

namespace Shortlink.Decimal

/-- The decisions of a format. -/
structure Style where
  /-- The range of powers of ten, of the first digit, that are written without an exponent. -/
  least : Option Int
  greatest : Option Int
  /-- What stands before the digits of a power of ten that is not negative. -/
  plus : String
deriving Repr

namespace Style

/-- Whether a power of ten is written without an exponent. -/
def isPositional (s : Style) (e : Int) : Bool :=
  (s.least.all (· ≤ e)) && (s.greatest.all (e ≤ ·))

/-- The digits in their places, with at least one digit on both sides of the point. -/
def positional (d : Scientific) : String :=
  let ds := Nat.toDigits 10 d.digits
  if d.exponent < 0 then
    "0." ++ String.ofList (List.replicate (-d.exponent - 1).toNat '0' ++ ds)
  else
    let whole := d.exponent.toNat + 1
    let front := ds.take whole ++ List.replicate (whole - ds.length) '0'
    let back := ds.drop whole
    String.ofList front ++ "." ++ (if back.isEmpty then "0" else String.ofList back)

/-- The first digit, the others behind a point, and the power of ten. -/
def scientific (s : Style) (d : Scientific) : String :=
  let ds := Nat.toDigits 10 d.digits
  let back := ds.drop 1
  String.ofList (ds.take 1) ++ (if back.isEmpty then "" else "." ++ String.ofList back) ++ "e" ++
    (if d.exponent < 0 then "-" else s.plus) ++ toString d.exponent.natAbs

/-- A float as the style writes it. -/
def text (s : Style) (x : Binary64) : String :=
  let d := x.magnitude.shortest
  (if x.negative then "-" else "") ++
    (if s.isPositional d.exponent then positional d else s.scientific d)

end Style

/-- Numbers from 0.00001 up to below 10^16 have their digits in place; others have a signed power
of ten. -/
def compactStyle : Style := ⟨some (-5), some 15, "+"⟩

def plainStyle : Style := ⟨none, none, ""⟩

end Shortlink.Decimal
