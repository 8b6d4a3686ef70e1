/-! Decimals: a whole coefficient times a power of ten, with their plain notation. -/
namespace RootFinder

-- `^` is the core power throughout, also beside a library with a more general one
attribute [default_instance 20000] instPowNat
attribute [instance (2000)] instPowNat

/-- The number `coefficient * 10 ^ exponent`. -/
structure Decimal where
  coefficient : Nat
  exponent : Int
deriving DecidableEq, Repr, Inhabited

namespace Decimal

def decimalDigits (n : Nat) : List Char := Nat.toDigits 10 n

/-- Numerator and denominator of the value. -/
def fraction (d : Decimal) : Nat × Nat :=
  if 0 ≤ d.exponent then (d.coefficient * 10 ^ d.exponent.toNat, 1)
  else (d.coefficient, 10 ^ (-d.exponent).toNat)

/-- Drops zeros from the end of the coefficient, at most `fuel` of them. -/
def dropZeros : Nat → Decimal → Decimal
  | 0, d => d
  | fuel + 1, d =>
    if d.coefficient ≠ 0 ∧ d.coefficient % 10 = 0 then
      dropZeros fuel ⟨d.coefficient / 10, d.exponent + 1⟩
    else d

/-- Writes `places` digits after the point; without any, no point. -/
def withPoint (places : Nat) (digits : List Char) : List Char :=
  if places = 0 then digits
  else
    let padded := List.replicate (places + 1 - digits.length) '0' ++ digits
    padded.take (padded.length - places) ++ '.' :: padded.drop (padded.length - places)

/-- The value in plain notation, with as many places as the exponent says. -/
def plain (d : Decimal) : List Char :=
  if 0 ≤ d.exponent then decimalDigits d.coefficient ++ List.replicate d.exponent.toNat '0'
  else withPoint (-d.exponent).toNat (decimalDigits d.coefficient)

end RootFinder.Decimal
