import RootFinder.Failure
import RootFinder.Json.Display
import RootFinder.Trace

/-! The steps of a solution, as its trace holds them and as lines for a reader. -/
namespace RootFinder

/-- A step of a solution. -/
inductive Event
  | parsed (coefficients : List Float)
  | trimmed (before after : List Float)
  | keptCubic
  | dispatched (strategy : Strategy) (degree : Nat)
  | rooted (count : Nat)
  | failed (notice : Notice)

namespace Event

def kind : Event → String
  | parsed _ => "parse"
  | trimmed _ _ | keptCubic => "trim"
  | dispatched _ _ => "strategy"
  | rooted _ => "roots"
  | failed _ => "error"

def floats (xs : List Float) : Json := .array (xs.map .float)

def detail : Event → List (String × Json)
  | parsed coefficients => [("coefficients", floats coefficients)]
  | trimmed before after => [("before", floats before), ("after", floats after)]
  | keptCubic => [("skipped", .bool true), ("reason", .string "cubic")]
  | dispatched strategy degree => [("name", .string strategy.name), ("degree", .int degree)]
  | rooted count => [("count", .int count)]
  | failed notice => [("kind", .string notice.kind.name), ("message", .string notice.message)]

/-- The line for a reader; a cubic kept as it is has none. -/
def note? : Event → Option String
  | parsed coefficients => some ("Parsed coefficients: " ++ Json.displayFloats coefficients)
  | trimmed _ after => some ("Trimmed trailing zeros: " ++ Json.displayFloats after)
  | keptCubic => none
  | dispatched strategy degree => some s!"Degree {degree}: using {strategy.name} solver"
  | rooted count => some s!"Found {count} root(s)"
  | failed notice => some notice.message

def toJson (e : Event) : Json := .object [("kind", .string e.kind), ("detail", .object e.detail)]

end Event

/-- Adds an event with its line. -/
def Trace.record (t : Trace Event) (e : Event) : Trace Event := t.add e e.note?

end RootFinder
