import RootFinder.ClosedForm
import RootFinder.Newton

/-! Strategies: one closed form for each degree up to three, Newton's method above. -/
namespace RootFinder

inductive Strategy
  | linear
  | quadratic
  | cubic
  | newton
deriving DecidableEq, Repr

namespace Strategy

def name : Strategy → String
  | .linear => "linear"
  | .quadratic => "quadratic"
  | .cubic => "cubic"
  | .newton => "newton"

/-- The strategy for a vector of some length; one shorter than two has none. -/
def select? (length : Int) : Option Strategy :=
  if length < 2 then none
  else if length = 2 then some .linear
  else if length = 3 then some .quadratic
  else if length = 4 then some .cubic
  else some .newton

def refusal (length : Int) : String := s!"No strategy for a vector of length {length}"

variable {α : Type} [Add α] [Sub α] [Mul α] [Neg α] [Elementary α]

def run : Strategy → List α → Except Fault (List (Root α))
  | .linear => ClosedForm.linear
  | .quadratic => ClosedForm.quadratic
  | .cubic => ClosedForm.cubic
  | .newton => Newton.search

end Strategy

end RootFinder
