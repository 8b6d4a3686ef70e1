import RootFinder.Record
import RootFinder.Service.NumberField
import RootFinder.Service.Target

/-! The service: requests and their replies. An expression is solved or parsed, coefficients are
formatted. Failures to solve are data of a good reply; what cannot be parsed is a bad request; and
a body of the wrong form is refused with the places of all its faults. -/
namespace RootFinder.Service

structure Request where
  method : String
  target : String
  body : Option Json

/-- A step from a request to a place in it. -/
inductive Step
  | name (s : String)
  | index (n : Nat)

inductive Complaint
  | missing
  | notObject
  | notString
  | notList
  | notNumber
  | noNumber

/-- The names of complaints. -/
def Complaint.name : Complaint → String
  | .missing => "missing"
  | .notObject => "model_attributes_type"
  | .notString => "string_type"
  | .notList => "list_type"
  | .notNumber => "float_type"
  | .noNumber => "float_parsing"

/-- A complaint and where it arises. -/
structure Refusal where
  complaint : Complaint
  place : List Step

inductive Reply
  | ok (body : Json)
  | badRequest (e : Expression.Error)
  | notFound
  | notAllowed
  | refused (refusals : List Refusal)

/-- What interrupts the service: a target may be no target at all, and a text with digits that have
no place value is not anticipated when parsing. -/
inductive Interruption
  | target (flaw : TargetFlaw)
  | expression (e : Expression.Error)

def Interruption.message : Interruption → String
  | .target flaw => flaw.message
  | .expression e => e.message

namespace Reply

def status : Reply → Nat
  | ok _ => 200
  | badRequest _ => 400
  | notFound => 404
  | notAllowed => 405
  | refused _ => 422

def detail (j : Json) : Json := .object [("detail", j)]

/-- The body; a refusal is the list of its complaints with their places. -/
def body : Reply → Json
  | ok body => body
  | badRequest e =>
    detail (.object
      [("error", .string e.message),
        ("error_kind", .string (Failure.expression e).notice.kind.name)])
  | notFound => detail (.string "Not Found")
  | notAllowed => detail (.string "Method Not Allowed")
  | refused refusals =>
    .array (refusals.map fun refusal =>
      .array [.string refusal.complaint.name, .array (refusal.place.map fun
        | .name s => .string s
        | .index n => .int n)])

end Reply

/-- The member of a body that must be an object. -/
def required (name : String) (body : Option Json) : Except (List Refusal) Json :=
  match body with
  | none | some .null => .error [⟨.missing, [.name "body"]⟩]
  | some (.object members) =>
    match Json.member? name members with
    | some value => .ok value
    | none => .error [⟨.missing, [.name "body", .name name]⟩]
  | some _ => .error [⟨.notObject, [.name "body"]⟩]

def expressionOf (body : Option Json) : Except (List Refusal) String :=
  match required "expression" body with
  | .error refusals => .error refusals
  | .ok (.string s) => .ok s
  | .ok _ => .error [⟨.notString, [.name "body", .name "expression"]⟩]

/-- The complaint about an item that is no number. -/
def itemRefusal (index : Nat) : NumberFlaw → Refusal
  | .kind => ⟨.notNumber, [.name "body", .name "coefficients", .index index]⟩
  | .text => ⟨.noNumber, [.name "body", .name "coefficients", .index index]⟩

/-- The numbers of a list that begins at `index`, or all complaints about it. -/
def numbersOf (index : Nat) : List Json → Except (List Refusal) (List Float)
  | [] => .ok []
  | item :: rest =>
    match numberOf item, numbersOf (index + 1) rest with
    | .ok x, .ok xs => .ok (x :: xs)
    | .ok _, .error refusals => .error refusals
    | .error flaw, .ok _ => .error [itemRefusal index flaw]
    | .error flaw, .error refusals => .error (itemRefusal index flaw :: refusals)

def coefficientsOf (body : Option Json) : Except (List Refusal) (List Float) :=
  match required "coefficients" body with
  | .error refusals => .error refusals
  | .ok (.array items) => numbersOf 0 items
  | .ok _ => .error [⟨.notList, [.name "body", .name "coefficients"]⟩]

/-- Where solutions are recorded, and on what kind of machine. -/
structure Recording where
  platform : String
  path : String

/-- A reply or an interruption, and the record that was kept. -/
structure Answer where
  outcome : Except Interruption Reply
  record : Option Json

def version : String := "1.0.0"

/-- The check of the roots of a solution, if it has any. -/
def checkOf (s : Solution) : Option (Verification Float) :=
  if s.ok then (Verification.check s.coefficients s.roots Verification.tolerance).toOption else none

/-- A document as a reply. -/
def reply (document : Json) : Reply := .ok document.standard

def solveExpression (recording : Option Recording) (expression : String) : Answer :=
  let solution := solve (.string expression)
  let check := checkOf solution
  let about (r : Recording) : Json :=
    .object [("version", .string version), ("platform", .string r.platform)]
  ⟨.ok (reply (solution.document check (recording.map Recording.path))),
    recording.map fun r =>
      Record.document (about r) (.object [("expression", .string expression)])
        (solution.document check none)⟩

/-- An error with a class of its own is a bad request; any other is not anticipated. -/
def parseExpression (expression : String) : Except Interruption Reply :=
  match Expression.parse expression.toList with
  | .ok coefficients =>
    .ok (reply (.object
      [("coefficients", .array (coefficients.map .float)),
        ("formatted", .string (Polynomial.format coefficients)),
        ("degree", .int (coefficients.length - 1))]))
  | .error e =>
    match (Failure.expression e).notice.kind with
    | .internal => .error (.expression e)
    | _ => .ok (.badRequest e)

def formatCoefficients (coefficients : List Float) : Reply :=
  reply (.object [("text", .string (Polynomial.format coefficients))])

inductive Route
  | health
  | solve
  | parse
  | format

namespace Route

def all : List Route := [.health, .solve, .parse, .format]

def path : Route → String
  | health => "/health"
  | solve => "/solve"
  | parse => "/parse"
  | format => "/format"

def method : Route → String
  | health => "GET"
  | _ => "POST"

end Route

/-- The path without the slashes at its end and without one line break. -/
def bare (path : List Char) : List Char :=
  match (path.reverse.dropWhile (· == '/')) with
  | '\n' :: rest => rest.reverse
  | rest => rest.reverse

def route? (path : List Char) : Option Route :=
  Route.all.find? fun route => route.path.toList == bare path

/-- Paths of the pages that describe the service. They are read only. -/
def descriptions : List String := ["/openapi.json", "/docs", "/docs/oauth2-redirect", "/redoc"]

def isDescription (path : List Char) : Bool := descriptions.any (·.toList == bare path)

/-- Refuses a body with faults; else `use` gets what it holds. -/
def withBody {α : Type} (found : Except (List Refusal) α) (use : α → Answer) : Answer :=
  match found with
  | .error refusals => ⟨.ok (.refused refusals), none⟩
  | .ok a => use a

def answer (recording : Option Recording) (request : Request) : Answer :=
  match Target.path request.target.toList with
  | .error flaw => ⟨.error (.target flaw), none⟩
  | .ok path =>
    match route? path with
    | none =>
      if isDescription path && request.method != "GET" then ⟨.ok .notAllowed, none⟩
      else ⟨.ok .notFound, none⟩
    | some route =>
      if request.method ≠ route.method then ⟨.ok .notAllowed, none⟩
      else
        match route with
        | .health => ⟨.ok (reply (.object [("ok", .bool true)])), none⟩
        | .solve => withBody (expressionOf request.body) (solveExpression recording)
        | .parse => withBody (expressionOf request.body) fun e => ⟨parseExpression e, none⟩
        | .format =>
          withBody (coefficientsOf request.body) fun c => ⟨.ok (formatCoefficients c), none⟩

end RootFinder.Service
