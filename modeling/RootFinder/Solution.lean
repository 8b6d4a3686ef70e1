import RootFinder.Binary64.Arithmetic
import RootFinder.Event
import RootFinder.Polynomial.Printer
import RootFinder.Polynomial.Trimming

/-! Solving an expression: its coefficients, trimmed, the strategy for their number, and the roots
to six places; with a trace of every step taken, also when one of them fails. -/
namespace RootFinder

/-- Places of a reported root. -/
def places : Nat := 6

/-- What became of a submitted value. Coefficients and strategy are those reached. -/
structure Solution where
  submitted : Json
  coefficients : List Float
  strategy : Option Strategy
  trace : Trace Event
  outcome : Except Failure (List (Root Float))

section

variable {α : Type} [Add α] [Sub α] [Mul α] [Neg α] [Elementary α]

/-- The strategy for a vector and the roots it finds. -/
def findRoots (coefficients : List α) : Except Failure (Strategy × List (Root α)) :=
  match Strategy.select? coefficients.length with
  | none => .error .constant
  | some strategy =>
    match strategy.run coefficients with
    | .error fault => .error (.fault fault)
    | .ok roots => .ok (strategy, roots)

end

/-- The roots to six places, provided there are some and they are finite. -/
def present (strategy : Strategy) (roots : List (Root Float)) :
    Except Failure (List (Root Float)) :=
  if roots.isEmpty then .error (.noRealRoots strategy)
  else
    match roots.mapM (Root.round places) with
    | .error fault => .error (.fault fault)
    | .ok rounded =>
      if rounded.all Root.isFinite then .ok rounded else .error (.notFinite strategy)

namespace Solution

def unsolved (submitted : Json) (coefficients : List Float) (strategy : Option Strategy)
    (trace : Trace Event) (failure : Failure) : Solution :=
  ⟨submitted, coefficients, strategy, trace.record (.failed failure.notice), .error failure⟩

/-- The trace up to the trimming. -/
def opening (parsed coefficients : List Float) : Trace Event :=
  let trace := Trace.empty.record (.parsed parsed)
  if coefficients.length ≠ parsed.length then trace.record (.trimmed parsed coefficients)
  else if parsed.length = 4 then trace.record .keptCubic
  else trace

end Solution

open Solution in
/-- Solves a submitted value. -/
def solve (submitted : Json) : Solution :=
  match Expression.parseJson submitted with
  | .error e => unsolved submitted [] none .empty (.expression e)
  | .ok parsed =>
    let coefficients := Polynomial.trim parsed
    let trace := opening parsed coefficients
    match findRoots coefficients with
    | .error failure => unsolved submitted coefficients none trace failure
    | .ok (strategy, roots) =>
      let trace := trace.record (.dispatched strategy (coefficients.length - 1))
      match present strategy roots with
      | .error failure => unsolved submitted coefficients (some strategy) trace failure
      | .ok rounded =>
        ⟨submitted, coefficients, some strategy, trace.record (.rooted rounded.length),
          .ok rounded⟩

namespace Solution

def ok (s : Solution) : Bool := s.outcome.isOk

/-- None when the outcome is a failure. -/
def roots (s : Solution) : List (Root Float) :=
  match s.outcome with
  | .ok roots => roots
  | .error _ => []

def notice? (s : Solution) : Option Notice :=
  match s.outcome with
  | .ok _ => none
  | .error failure => some failure.notice

/-- The text of the coefficients reached. -/
def formatted? (s : Solution) : Option String :=
  if s.coefficients.isEmpty then none else some (Polynomial.format s.coefficients)

end Solution

end RootFinder
