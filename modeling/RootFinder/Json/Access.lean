import RootFinder.Json.Order

/-! Taking values apart that may not have the expected form. -/
namespace RootFinder.Json

/-- A value has no members, no items, or no order with another one. -/
inductive Misfit
  | noMembers (kind : String)
  | noItems (kind : String)
  | unordered (pair : Unordered)
deriving DecidableEq, Repr

def Misfit.message : Misfit → String
  | noMembers kind => s!"'{kind}' object has no attribute 'get'"
  | noItems kind => s!"'{kind}' object is not iterable"
  | unordered pair => pair.message

def members : Json → Except Misfit (List (String × Json))
  | .object members => .ok members
  | j => .error (.noMembers j.kind)

/-- The items of a list, the names of an object's members, or the characters of a text. -/
def items : Json → Except Misfit (List Json)
  | .array items => .ok items
  | .object members => .ok (members.map fun m => .string m.1)
  | .string s => .ok (s.toList.map fun c => .string (String.ofList [c]))
  | j => .error (.noItems j.kind)

/-- A member, or a value for when it is not there. -/
def memberOr (name : String) (otherwise : Json) (members : List (String × Json)) : Json :=
  (member? name members).getD otherwise

end RootFinder.Json
