import RootFinder.Proofs.Json.Standard
import RootFinder.Service

/-! Requests that submit an expression to one of the routes, how they are answered, and the text of
the coefficients in an answer. -/
namespace RootFinder.Service

def Route.submit (route : Route) (expression : String) : Request :=
  ⟨route.method, route.path, some (.object [("expression", .string expression)])⟩

theorem Route.target_path (route : Route) :
    Target.path route.path.toList = .ok route.path.toList := by
  cases route <;> rfl

theorem Route.route?_path (route : Route) : route? route.path.toList = some route := by
  cases route <;> rfl

def Reply.formatted? (reply : Reply) : Option String :=
  match reply.body with
  | .object members =>
    match Json.member? "formatted" members with
    | some (.string text) => some text
    | _ => none
  | _ => none

def Answer.formatted? (a : Answer) : Option String := a.outcome.toOption.bind Reply.formatted?

theorem formatted?_document (s : Solution) (check : Option (Verification Float))
    (path : Option String) : (reply (s.document check path)).formatted? = s.formatted? := by
  simp only [Reply.formatted?, reply, Reply.body, Solution.document, Json.standard,
    Json.member?_standardMembers]
  cases s.formatted? <;> rfl

section

variable (recording : Option Recording) (expression : String)

theorem answer_solve :
    answer recording (Route.solve.submit expression) = solveExpression recording expression := by
  simp only [answer, Route.submit, Route.target_path, Route.route?_path]
  rfl

theorem answer_parse :
    answer recording (Route.parse.submit expression) = ⟨parseExpression expression, none⟩ := by
  simp only [answer, Route.submit, Route.target_path, Route.route?_path]
  rfl

theorem formatted?_parse {parsed : List Float}
    (read : Expression.parse expression.toList = .ok parsed) :
    (answer recording (Route.parse.submit expression)).formatted? =
      some (Polynomial.format parsed) := by
  rw [answer_parse, parseExpression, read]
  rfl

theorem formatted?_solve :
    (answer recording (Route.solve.submit expression)).formatted? =
      (solve (.string expression)).formatted? := by
  rw [answer_solve]
  exact formatted?_document _ _ _

end

end RootFinder.Service
