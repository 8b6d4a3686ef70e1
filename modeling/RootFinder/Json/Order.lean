import RootFinder.Binary64
import RootFinder.Json

/-! Comparing values. Numbers compare by their exact value whatever their kind, strings and
arrays by their first difference; other pairs have no order. -/
namespace RootFinder.Json

/-- A number on the line: below everything, above everything, a multiple of the unit of doubles,
or nowhere. -/
inductive Size
  | below
  | units (n : Int)
  | above
  | nowhere

def Size.less : Size → Size → Bool
  | below, below => false
  | below, units _ => true
  | below, above => true
  | units _, above => true
  | units a, units b => a < b
  | _, _ => false

/-- The number that is nowhere is the same as itself, although it is not beside any other. -/
def Size.same : Size → Size → Bool
  | below, below => true
  | above, above => true
  | nowhere, nowhere => true
  | units a, units b => a == b
  | _, _ => false

/-- The size of a number; yes and no count as one and zero. -/
def size? : Json → Option Size
  | .bool b => some (.units (if b then Binary64.one else 0))
  | .int n => some (.units (n * Binary64.one))
  | .float x =>
    match Binary64.parts x with
    | .undefined => some .nowhere
    | .infinite negative => some (if negative then .below else .above)
    | .finite negative rank =>
      some (.units (if negative then -(Binary64.units rank : Int) else Binary64.units rank))
  | _ => none

mutual

/-- Equality by value, numbers across their kinds. -/
def same : Json → Json → Bool
  | .null, .null => true
  | .string a, .string b => a == b
  | .array a, .array b => sameItems a b
  | .object a, .object b => a.length == b.length && sameMembers a b
  | .null, _ | .string _, _ | .array _, _ | .object _, _ => false
  | a, b =>
    match size? a, size? b with
    | some m, some n => m.same n
    | _, _ => false

def sameItems : List Json → List Json → Bool
  | [], [] => true
  | a :: as, b :: bs => same a b && sameItems as bs
  | _, _ => false

/-- Every member of the first has an equal partner in the second. -/
def sameMembers : List (String × Json) → List (String × Json) → Bool
  | [], _ => true
  | (name, value) :: rest, others =>
    (match member? name others with
      | some other => same value other
      | none => false) && sameMembers rest others

end

/-- Two values without an order, by their kinds. -/
structure Unordered where
  left : String
  right : String
deriving DecidableEq, Repr

def Unordered.message (u : Unordered) : String :=
  s!"'<' not supported between instances of '{u.left}' and '{u.right}'"

mutual

/-- Whether one value comes before another. -/
def less : Json → Json → Except Unordered Bool
  | .string a, .string b => .ok (a < b)
  | .array a, .array b => lessItems a b
  | a, b =>
    match size? a, size? b with
    | some m, some n => .ok (m.less n)
    | _, _ => .error ⟨a.kind, b.kind⟩

def lessItems : List Json → List Json → Except Unordered Bool
  | [], bs => .ok (!bs.isEmpty)
  | _ :: _, [] => .ok false
  | a :: as, b :: bs => if same a b then lessItems as bs else less a b

end

end RootFinder.Json
