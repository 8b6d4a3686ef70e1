import RootFinder.Binary64.Places
import RootFinder.Decimal.Display
import RootFinder.Json

/-! Roots: real numbers, and complex numbers by their two parts. -/
namespace RootFinder

inductive Root (α : Type)
  | real (value : α)
  | complex (re im : α)
deriving DecidableEq, Repr

namespace Root

/-- Every part is a finite number. -/
def isFinite : Root Float → Bool
  | real value => Binary64.isFinite value
  | complex re im => Binary64.isFinite re && Binary64.isFinite im

/-- A part rounded to `places` places, without a negative zero. -/
def roundPart (places : Int) (x : Float) : Except Fault Float :=
  (Binary64.round places x).map Binary64.foldZero

def round (places : Int) : Root Float → Except Fault (Root Float)
  | real value => (roundPart places value).map real
  | complex re im => do
    let re ← roundPart places re
    let im ← roundPart places im
    pure (complex re im)

/-- A root with `places` places to each part. An imaginary part of zero is not shown. -/
def display (places : Nat) : Root Float → String
  | real value => Decimal.fixed places value
  | complex re im =>
    if Binary64.isZero im then Decimal.fixed places re
    else
      let sign := if Binary64.isAboveZero im then "+" else "-"
      s!"{Decimal.fixed places re} {sign} {Decimal.fixed places im.abs}i"

/-- A root with a number of places that must not be negative, nor too large to be counted. -/
def text (places : Int) (root : Root Float) : Except Fault String :=
  if places < 0 then .error .noPlaces
  else if 2 ^ 63 ≤ places then .error .placesUnreadable
  else if 2 ^ 31 ≤ places then .error .placesTooLarge
  else .ok (root.display places.toNat)

/-- A number, or an object of two. -/
def toJson : Root Float → Json
  | real value => .float value
  | complex re im => .object [("re", .float re), ("im", .float im)]

end Root

end RootFinder
