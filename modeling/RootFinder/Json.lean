/-! JSON values. Numbers keep their kind, whole or fractional, and objects the order of their
members. -/
namespace RootFinder

inductive Json
  | null
  | bool (b : Bool)
  | int (n : Int)
  | float (x : Float)
  | string (s : String)
  | array (items : List Json)
  | object (members : List (String × Json))
deriving BEq, Repr, Inhabited

namespace Json

/-- The value of a member. -/
def member? (name : String) (members : List (String × Json)) : Option Json :=
  (members.find? (·.1 == name)).map (·.2)

/-- Adds a member; one of the same name gives up its value and keeps its place. -/
def insert (members : List (String × Json)) (name : String) (value : Json) :
    List (String × Json) :=
  if members.any (·.1 == name) then
    members.map fun m => if m.1 == name then (name, value) else m
  else members ++ [(name, value)]

/-- Nothing, no, zero, and what is empty count as absent. -/
def isVoid : Json → Bool
  | null => true
  | bool b => !b
  | int n => n == 0
  | float x => x == 0
  | string s => s.isEmpty
  | array items => items.isEmpty
  | object members => members.isEmpty

mutual

/-- The value as a standard document holds it: a number that is not finite is left empty. -/
def standard : Json → Json
  | float x => if x.isFinite then float x else null
  | array items => array (standardItems items)
  | object members => object (standardMembers members)
  | j => j

def standardItems : List Json → List Json
  | [] => []
  | item :: rest => item.standard :: standardItems rest

def standardMembers : List (String × Json) → List (String × Json)
  | [] => []
  | (name, value) :: rest => (name, value.standard) :: standardMembers rest

end

/-- The kind of a value, as messages name it. -/
def kind : Json → String
  | null => "NoneType"
  | bool _ => "bool"
  | int _ => "int"
  | float _ => "float"
  | string _ => "str"
  | array _ => "list"
  | object _ => "dict"

end Json

end RootFinder
