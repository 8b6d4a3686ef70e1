import RootFinder.Json.Display
import RootFinder.Json.Reader
import RootFinder.Launcher.Session
import RootFinder.Sorting

/-! The smoke test: the service is asked to solve a quadratic with known roots. -/
namespace RootFinder.Launcher.Smoke

def expression : String := "x^2 - 3x + 2"

def roots : List Float := [1, 2]

/-- The reply solves the quadratic when it says so and its roots, sorted, are the known ones. -/
def verdict (reply : Json) : Except Json.Misfit Bool := do
  let members ← reply.members
  match Json.memberOr "ok" .null members with
  | .bool true =>
    let found ← (Json.memberOr "roots" (.array []) members).items
    let sorted ← (Sorting.sort Json.less found).mapError .unordered
    pure (Json.same (.array sorted) (.array (roots.map .float)))
  | _ => pure false

/-- Asks for the solution; a reply that is no JSON counts as failed, unless its values stand too
deep inside one another to be read at all. -/
def test (script : Script) (baseUrl : String) : Session Bool := do
  note (.post (baseUrl ++ "/solve") (.object [("expression", .string expression)]) 5)
  match script.smoke with
  | none =>
    echo "Smoke solve failed: refused"
    pure false
  | some text =>
    match Json.read text.toList with
    | .error e =>
      match e.problem with
      | .depth _ => throw (.tooDeep e)
      | _ =>
        echo ("Smoke solve failed: " ++ e.message)
        pure false
    | .ok reply =>
      match verdict reply with
      | .ok passed => pure passed
      | .error m => throw (.misfit m)

end RootFinder.Launcher.Smoke
