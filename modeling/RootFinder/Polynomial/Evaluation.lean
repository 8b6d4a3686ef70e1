import RootFinder.Arithmetic

/-! The value of a polynomial and of its derivative at a point, as sums of powers; coefficients
stand highest power first. -/
namespace RootFinder.Polynomial

open Scalar

variable {α : Type} [Add α] [Mul α] [Scalar α]

/-- Adds the terms of a vector at `x` to a value and a derivative. -/
def accumulate (x : α) : List α → α → α → Except Fault (α × α)
  | [], value, derivative => .ok (value, derivative)
  | [c], value, derivative => do
    let p ← power x 0
    pure (value + c * p, derivative)
  | c :: d :: rest, value, derivative => do
    let n := rest.length
    let p ← power x (n + 1)
    let q ← power x n
    accumulate x (d :: rest) (value + c * p) (derivative + whole (n + 1) * c * q)

/-- Value and derivative at `x`. -/
def evaluate (coefficients : List α) (x : α) : Except Fault (α × α) :=
  accumulate x coefficients (whole 0) (whole 0)

end RootFinder.Polynomial
