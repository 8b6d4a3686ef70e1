import RootFinder.Expression
import RootFinder.Strategy

/-! Why an expression is not solved, and how that is reported. -/
namespace RootFinder

/-- The classes under which failures are reported. -/
inductive FailureKind
  | polynomial
  | empty
  | invalid
  | constant
  | internal
deriving DecidableEq, Repr

def FailureKind.name : FailureKind → String
  | .polynomial => "PolynomialError"
  | .empty => "EmptyExpression"
  | .invalid => "InvalidExpression"
  | .constant => "ConstantPolynomial"
  | .internal => "SolverInternalError"

/-- A failure as it is reported; the position is that of a flaw in the text. -/
structure Notice where
  kind : FailureKind
  message : String
  position : Option Int
deriving DecidableEq, Repr

/-- What a kind is called when nothing more is known. -/
def FailureKind.wording : FailureKind → String
  | .polynomial => ""
  | .empty => Expression.Error.empty.message
  | .invalid => Expression.flawed
  | .constant => "Constant polynomial has no roots"
  | .internal => ""

/-- The notice of a kind, with a wording of its own if one is given. A position is for flaws of
the text only. -/
def Notice.of (kind : FailureKind) (wording : Option String) (position : Option Int) : Notice :=
  let wording := wording.getD kind.wording
  match kind, position with
  | .invalid, some p => ⟨kind, Expression.located wording p, position⟩
  | .internal, _ =>
    ⟨kind, "An error occurred while solving the polynomial: " ++ wording, none⟩
  | _, _ => ⟨kind, wording, none⟩

inductive Failure
  | expression (e : Expression.Error)
  | constant
  | fault (f : Fault)
  | noRealRoots (strategy : Strategy)
  | notFinite (strategy : Strategy)
deriving DecidableEq, Repr

/-- An empty text, a flaw and a constant have classes of their own; all else is internal. -/
def Failure.notice : Failure → Notice
  | .expression .empty => .of .empty none none
  | .expression (.invalid flaw position) =>
    .of .invalid (some (Expression.flawed ++ ": " ++ flaw.message)) (some position)
  | .expression e => .of .internal (some e.message) none
  | .constant => .of .constant none none
  | .fault f => .of .internal (some f.message) none
  | .noRealRoots strategy =>
    .of .internal (some s!"{strategy.name} search found no real roots") none
  | .notFinite strategy =>
    .of .internal (some s!"{strategy.name} solver produced a non-finite root") none

end RootFinder
