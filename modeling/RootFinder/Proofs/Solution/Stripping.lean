import RootFinder.Solution

/-! Blanks around an expression. They are removed with all others before it is read, so they change
nothing of its solution but what was submitted. -/
namespace RootFinder

open Expression (parse parseJson)
open Text (isBlank removeBlanks strip)

theorem removeBlanks_dropWhile (cs : List Char) :
    removeBlanks (cs.dropWhile isBlank) = removeBlanks cs := by
  induction cs with
  | nil => rfl
  | cons c rest ih =>
    cases blank : isBlank c with
    | true =>
      rw [List.dropWhile_cons_of_pos blank, ih]
      simp [removeBlanks, blank]
    | false => rw [List.dropWhile_cons_of_neg (Bool.eq_false_iff.mp blank)]

theorem removeBlanks_reverse (cs : List Char) :
    removeBlanks cs.reverse = (removeBlanks cs).reverse := by
  simp [removeBlanks]

theorem removeBlanks_strip (cs : List Char) : removeBlanks (strip cs) = removeBlanks cs := by
  rw [strip, Text.trim, removeBlanks_reverse, removeBlanks_dropWhile, removeBlanks_reverse,
    List.reverse_reverse, removeBlanks_dropWhile]

theorem parse_strip (cs : List Char) : parse (strip cs) = parse cs := by
  unfold parse Expression.normalize
  rw [removeBlanks_strip]

/-- Values that are read alike have the same solution, apart from what was submitted. -/
theorem solve_of_read_eq {a b : Json} (same : parseJson a = parseJson b) :
    solve a = { solve b with submitted := a } := by
  unfold solve
  rw [same]
  cases parseJson b with
  | error e => rfl
  | ok parsed =>
    dsimp only
    cases findRoots (Polynomial.trim parsed) with
    | error failure => rfl
    | ok pair =>
      obtain ⟨solver, roots⟩ := pair
      dsimp only
      cases present solver roots with
      | error failure => rfl
      | ok rounded => rfl

theorem parseJson_string (s : String) : parseJson (.string s) = parse s.toList := rfl

theorem solve_strip (expression : String) :
    solve (.string (String.ofList (strip expression.toList))) =
      { solve (.string expression) with
        submitted := .string (String.ofList (strip expression.toList)) } := by
  have same : parseJson (.string (String.ofList (strip expression.toList))) =
      parseJson (.string expression) := by
    rw [parseJson_string, parseJson_string, String.toList_ofList, parse_strip]
  exact solve_of_read_eq same

end RootFinder
