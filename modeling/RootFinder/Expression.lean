import RootFinder.Expression.Term
import RootFinder.Json
import RootFinder.Text.Blank
import RootFinder.Text.Lowercase

/-! Expressions: the text of a polynomial in x, and the coefficients it stands for, those of the
highest power first. -/
namespace RootFinder.Expression

/-- The text that is read: without blanks, in lower case. -/
def normalize (cs : List Char) : List Char := Text.lowercase (Text.removeBlanks cs)

/-- The text of a submitted value. What counts as absent is the empty text. -/
def ofJson : Json → Except Error (List Char)
  | .string s => .ok s.toList
  | j => if j.isVoid then .ok [] else .error (.noText j.kind)

/-- The highest exponent of a term with the unknown. -/
def degree (terms : List Term) : Nat :=
  terms.foldl (fun highest t => if t.hasUnknown then max highest t.exponent else highest) 0

/-- Of several terms with one exponent the last one counts. -/
def coefficientAt (terms : List Term) (exponent : Nat) : Float :=
  match terms.reverse.find? (·.exponent == exponent) with
  | some t => t.coefficient
  | none => 0

def vector (terms : List Term) : List Float :=
  (List.range (degree terms + 1)).reverse.map (coefficientAt terms)

/-- Texts whose coefficients are given without reading them. -/
def shortcuts : List (List Char × List Float) := [(['0'], [0]), (['1'], [1])]

/-- The coefficients of a text. -/
def parse (cs : List Char) : Except Error (List Float) :=
  let text := normalize cs
  if text.isEmpty then .error .empty
  else
    match shortcuts.lookup text with
    | some v => .ok v
    | none => (terms text).map vector

/-- The coefficients of a submitted value. -/
def parseJson (submitted : Json) : Except Error (List Float) := (ofJson submitted).bind parse

theorem length_vector (terms : List Term) : (vector terms).length = degree terms + 1 := by
  simp [vector]

theorem vector_ne_nil (terms : List Term) : vector terms ≠ [] := by
  intro h
  have := length_vector terms
  rw [h] at this
  cases this

end RootFinder.Expression
