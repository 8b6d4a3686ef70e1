import RootFinder.Decimal

/-! The arithmetic that solving is written over. Sums, differences, products and negations are
total; a power, a quotient, a square root and an arc cosine may have no result, and say why.
Doubles are one instance; exact numbers are others. -/
namespace RootFinder

/-- Why a calculation has no result. -/
inductive Fault
  | divisionByZero
  | outsideDomain
  | powerTooLarge
  | roundedTooLarge
  | noPlaces
  | placesTooLarge
  | placesUnreadable
  | wrongLength (expected found : Nat)
  | nothingToCompare
deriving DecidableEq, Repr

def Fault.message : Fault → String
  | .divisionByZero => "float division by zero"
  | .outsideDomain => "math domain error"
  | .powerTooLarge => "(34, 'Numerical result out of range')"
  | .roundedTooLarge => "rounded value too large to represent"
  | .noPlaces => "Format specifier missing precision"
  | .placesTooLarge => "precision too big"
  | .placesUnreadable => "Too many decimal digits in format string"
  | .wrongLength expected found =>
    if found < expected then s!"not enough values to unpack (expected {expected}, got {found})"
    else s!"too many values to unpack (expected {expected})"
  | .nothingToCompare => "max() arg is an empty sequence"

/-- Whole numbers and powers, all that evaluating a polynomial takes beside sums and products. -/
class Scalar (α : Type) where
  whole : Nat → α
  power : α → Nat → Except Fault α

/-- Decimals, comparisons and quotients, for searching roots. -/
class Approximate (α : Type) extends Scalar α where
  decimal : Decimal → α
  less : α → α → Bool
  same : α → α → Bool
  magnitude : α → α
  quotient : α → α → Except Fault α

/-- Square and cube roots and the cosine with its inverse, for closed forms. -/
class Elementary (α : Type) extends Approximate α where
  pi : α
  squareRoot : α → Except Fault α
  cubeRoot : α → α
  cosine : α → α
  arcCosine : α → Except Fault α

namespace Approximate

open Scalar

variable {α : Type} [Approximate α]

def isZero (x : α) : Bool := same x (whole 0)

def atMost (a b : α) : Bool := less a b || same a b

/-- The largest of a list, the earlier of two that do not compare. -/
def largest (first : α) (rest : List α) : α :=
  rest.foldl (fun best x => if less best x then x else best) first

end Approximate

end RootFinder
