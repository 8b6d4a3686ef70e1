import RootFinder.Binary64.Arithmetic
import RootFinder.Binary64.Point
import RootFinder.Root

/-! Checking roots by substitution. A set of roots passes when no residual exceeds the tolerance,
scaled by the largest coefficient; it is complete when it has as many roots as the degree. -/
namespace RootFinder

open Scalar Approximate

/-- An arithmetic that can substitute roots. -/
class Substitution (α : Type) where
  /-- The magnitude of the value of a polynomial at a root. -/
  residual : List α → Root α → α

/-- Doubles are substituted exactly, and the magnitude is rounded. -/
instance : Substitution Float where
  residual coefficients root :=
    let cs := coefficients.map Binary64.Exact.ofFloat
    match root with
    | .real x => (Polynomial.realValue (.ofFloat x) cs).magnitude
    | .complex re im => ((Binary64.Point.of (.ofFloat re) (.ofFloat im)).value cs).magnitude

structure Verification (α : Type) where
  residuals : List α
  worst : α
  passed : Bool
  expected : Nat
  found : Nat
  complete : Bool

namespace Verification

variable {α : Type} [Mul α] [Approximate α] [Substitution α]

/-- The tolerance unless another is asked for. -/
def tolerance : α := decimal ⟨1, -4⟩

/-- The largest coefficient, but at least one. -/
def scale (first : α) (rest : List α) : α :=
  let most := largest (magnitude first) (rest.map magnitude)
  if less (whole 1) most then most else whole 1

/-- The largest residual, zero when there is none. -/
def worstOf : List α → α
  | [] => whole 0
  | first :: rest => largest first rest

/-- Checks roots; without coefficients there is no scale. -/
def check (coefficients : List α) (roots : List (Root α)) (tolerance : α) :
    Except Fault (Verification α) :=
  match coefficients with
  | [] => .error .nothingToCompare
  | first :: rest =>
    let residuals := roots.map (Substitution.residual coefficients)
    let worst := worstOf residuals
    .ok ⟨residuals, worst, atMost worst (tolerance * scale first rest), rest.length, roots.length,
      roots.length == rest.length⟩

end Verification

def Verification.toJson (v : Verification Float) : Json :=
  .object
    [("residuals", .array (v.residuals.map .float)), ("max_residual", .float v.worst),
      ("passed", .bool v.passed), ("expected_roots", .int v.expected),
      ("found_roots", .int v.found), ("complete", .bool v.complete)]

end RootFinder
