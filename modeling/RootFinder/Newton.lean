import RootFinder.Polynomial.Evaluation
import RootFinder.Root

/-! Newton's method from eleven seeds. It finds real roots only, and not always all of them. -/
namespace RootFinder.Newton

open Scalar Approximate
open RootFinder.Polynomial (evaluate)

variable {α : Type} [Add α] [Sub α] [Mul α] [Neg α] [Approximate α]

/-- Values, steps and distances below this count as none. -/
def tolerance : α := decimal ⟨1, -10⟩

/-- The number of iterates that a seed may take. -/
def patience : Nat := 100

/-- The even numbers from -10 to 10. -/
def seeds : List α :=
  [10, 8, 6, 4, 2].map (fun n => -whole n) ++ [0, 2, 4, 6, 8, 10].map whole

/-- The first of the next `fuel` iterates at which the polynomial is nearly zero. None is found
where the slope vanishes, where a step is too short to go on, or where a power is too large. -/
def approach (coefficients : List α) : Nat → α → Except Fault (Option α)
  | 0, _ => .ok none
  | fuel + 1, x =>
    match evaluate coefficients x with
    | .error .powerTooLarge => .ok none
    | .error fault => .error fault
    | .ok (value, derivative) =>
      if less (magnitude value) tolerance then .ok (some x)
      else if isZero derivative then .ok none
      else
        match quotient value derivative with
        | .error fault => .error fault
        | .ok step =>
          let next := x - step
          if less (magnitude (next - x)) tolerance then .ok none
          else approach coefficients fuel next

/-- `x` lies further than the tolerance from every root found. -/
def isNew (roots : List α) (x : α) : Bool :=
  roots.all fun r => less tolerance (magnitude (r - x))

/-- The roots found from a list of seeds, after those already known. -/
def collect (coefficients : List α) : List α → List α → Except Fault (List α)
  | [], roots => .ok roots
  | seed :: rest, roots =>
    match approach coefficients patience seed with
    | .error fault => .error fault
    | .ok none => collect coefficients rest roots
    | .ok (some x) => collect coefficients rest (if isNew roots x then roots ++ [x] else roots)

/-- The real roots found from all seeds. -/
def search (coefficients : List α) : Except Fault (List (Root α)) :=
  (collect coefficients seeds []).map (·.map .real)

end RootFinder.Newton
