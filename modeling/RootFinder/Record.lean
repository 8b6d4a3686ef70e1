import RootFinder.Json.Writer
import RootFinder.Solution
import RootFinder.Verification

/-! Documents: a solution with its check, and the file that keeps one together with what was
asked. -/
namespace RootFinder

def optional {α : Type} (write : α → Json) : Option α → Json
  | none => .null
  | some a => write a

/-- A solution as a document; `path` is where a record of it is kept. -/
def Solution.document (s : Solution) (check : Option (Verification Float))
    (path : Option String) : Json :=
  .object
    [("ok", .bool s.ok), ("expression", s.submitted),
      ("coefficients", .array (s.coefficients.map .float)),
      ("formatted", optional .string s.formatted?),
      ("strategy", optional (fun strategy => .string strategy.name) s.strategy),
      ("roots", .array (s.roots.map Root.toJson)),
      ("steps", .array (s.trace.notes.map .string)),
      ("trace", .array (s.trace.events.map Event.toJson)),
      ("verification", optional Verification.toJson check),
      ("error", optional (fun notice => .string notice.message) s.notice?),
      ("error_kind", optional (fun notice => .string notice.kind.name) s.notice?),
      ("trace_path", optional .string path)]

namespace Record

/-- What the record is about, what was asked, and what came out. -/
def document (about asked answer : Json) : Json :=
  .object [("meta", about), ("input", asked), ("output", answer)]

/-- The text of a record's file. -/
def text (about asked answer : Json) : String := (document about asked answer).pretty

structure Moment where
  year : Nat
  month : Nat
  day : Nat
  hour : Nat
  minute : Nat
  second : Nat

def padded (width n : Nat) : List Char :=
  let digits := Decimal.decimalDigits n
  List.replicate (width - digits.length) '0' ++ digits

/-- The name of a record's file: the moment it was made, and six digits that tell apart those of
one second. -/
def fileName (m : Moment) (fragment : Nat) : List Char :=
  "solve_".toList ++ padded 4 m.year ++ padded 2 m.month ++ padded 2 m.day ++ ['_'] ++
    padded 2 m.hour ++ padded 2 m.minute ++ padded 2 m.second ++ "Z_".toList ++
    padded 6 (fragment % 1000000) ++ ".json".toList

/-- A name with its digits made zeros. -/
def shape (name : List Char) : List Char := name.map fun c => if c.isDigit then '0' else c

def isFileName (name : List Char) : Bool := shape name == "solve_00000000_000000Z_000000.json".toList

end Record

end RootFinder
