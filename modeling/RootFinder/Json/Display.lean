import RootFinder.Decimal.Display
import RootFinder.Json
import RootFinder.Text.Quoted

/-! The text of a value inside a sentence: a string stands for itself at the top and is quoted
further in. -/
namespace RootFinder.Json

def separated (items : List String) : String := ", ".intercalate items

mutual

/-- A value as it appears inside another one. -/
def inner : Json → String
  | .null => "None"
  | .bool b => if b then "True" else "False"
  | .int n => toString n
  | .float x => Decimal.messages.text x
  | .string s => Text.quoted s.toList
  | .array items => "[" ++ separated (innerItems items) ++ "]"
  | .object members => "\x7b" ++ separated (innerMembers members) ++ "\x7d"

def innerItems : List Json → List String
  | [] => []
  | item :: rest => inner item :: innerItems rest

def innerMembers : List (String × Json) → List String
  | [] => []
  | (name, value) :: rest => (Text.quoted name.toList ++ ": " ++ inner value) :: innerMembers rest

end

def display : Json → String
  | .string s => s
  | j => inner j

/-- A list of doubles, as the steps of a solution show it. -/
def displayFloats (xs : List Float) : String := inner (.array (xs.map .float))

end RootFinder.Json
