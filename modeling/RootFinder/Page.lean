import RootFinder.Json.Access
import RootFinder.Json.Display
import RootFinder.Page.Element
import RootFinder.Service

/-! The page: a form for an expression and, once that is submitted, the reply of the service to
it. A reply that does not have the form of a solution breaks the page off where that shows. -/
namespace RootFinder.Page

/-- Why a page breaks off. -/
inductive Fault
  | service (e : Service.Interruption)
  | unreadable (e : Json.ReadError)
  | missing (name : String)
  | misfit (m : Json.Misfit)
  | noLine (kind : String)
  | noSign (kind : String)
  | noPlaces (kind : String)
  | tooLarge

def Fault.message : Fault → String
  | .service e => e.message
  | .unreadable e => e.message
  | .missing name => Text.quoted name.toList
  | .misfit m => m.message
  | .noLine kind => s!"can only concatenate str (not \"{kind}\") to str"
  | .noSign kind => s!"'>' not supported between instances of '{kind}' and 'int'"
  | .noPlaces kind =>
    if kind = "str" then "Unknown format code 'f' for object of type 'str'"
    else s!"unsupported format string passed to {kind}.__format__"
  | .tooLarge => "int too large to convert to float"

/-- A page ends early on purpose or by a fault. -/
inductive Ending
  | stopped
  | broken (fault : Fault)

/-- A part of a page: what it shows, and whether the page goes on. -/
abbrev Part (α : Type) := ExceptT Ending (StateM (List Element)) α

def put (element : Element) : Part Unit := modify (· ++ [element])

def stop : Part Unit := do
  put .stop
  throw .stopped

def check {α : Type} : Except Fault α → Part α
  | .ok a => pure a
  | .error fault => throw (.broken fault)

/-- What a server sends back. -/
structure Response where
  status : Int
  text : String
  content : Except Json.ReadError Json

/-- A response that consists of a text. -/
def Response.ofText (status : Int) (text : String) : Response :=
  ⟨status, text, Json.read text.toList⟩

/-- The response of the service to a request for a solution. -/
def Response.ofService (body : Json) : Except Fault Response :=
  match (Service.answer none ⟨"POST", "/solve", some body⟩).outcome with
  | .ok reply => .ok ⟨reply.status, reply.body.compact, .ok reply.body⟩
  | .error e => .error (.service e)

def address : String := "http://127.0.0.1:8000"

/-! Reading a reply. -/

def membersOf (j : Json) : Except Fault (List (String × Json)) := j.members.mapError .misfit

def itemsOf (j : Json) : Except Fault (List Json) := j.items.mapError .misfit

def demand (name : String) (members : List (String × Json)) : Except Fault Json :=
  match Json.member? name members with
  | some value => .ok value
  | none => .error (.missing name)

/-- The number that a value is shown as. -/
def numberOf : Json → Except Fault Float
  | .bool b => .ok (if b then 1 else 0)
  | .int n =>
    match Binary64.ofInteger? n with
    | some x => .ok x
    | none => .error .tooLarge
  | .float x => .ok x
  | j => .error (.noPlaces j.kind)

/-- Only numbers have a sign. -/
def requireSign : Json → Except Fault Unit
  | .bool _ | .int _ | .float _ => .ok ()
  | j => .error (.noSign j.kind)

def isZero : Json → Bool
  | .bool b => !b
  | .int n => n == 0
  | .float x => x == 0
  | _ => false

/-- A root of a reply, as it is shown. -/
def rootText : Json → Except Fault String
  | .object members => do
    let re ← demand "re" members
    let im ← demand "im" members
    if isZero im then
      let re ← numberOf re
      pure ((Root.real re).display places)
    else
      requireSign im
      let re ← numberOf re
      let im ← numberOf im
      pure ((Root.complex re im).display places)
  | j => do
    let x ← numberOf j
    pure ((Root.real x).display places)

def bullet (text : String) : String := "• " ++ text

def stepText : Json → Except Fault String
  | .string s => .ok (bullet s)
  | j => .error (.noLine j.kind)

/-! The page. -/

def preamble : List Element :=
  [.settings "Polynomial Root Solver" "centered",
    .title "Polynomial Root Solver",
    .subheader "Syntax",
    .markdown ("- one variable, `x`\n- powers with `^`: `3x^4`\n- terms joined by `+` / `-`, no "
      ++ "parentheses or `*`\n- degree ≤ 3 is solved exactly; higher degrees use Newton–Raphson "
      ++ "and only report real roots"),
    .form "polyform",
    .textField "Enter polynomial expression:" "e.g., x^2 - 3x + 2",
    .submitButton "Solve"]

def traceSection (members : List (String × Json)) : Part Unit := do
  put (.section "Trace")
  put (.code (Json.memberOr "trace" (.array []) members).pretty)

/-- What is shown of a solution that failed. -/
def showFailure (members : List (String × Json)) : Part Unit := do
  let message := Json.memberOr "error" .null members
  put (.error (if message.isVoid then
    .string ("Invalid polynomial expression. Please enter a valid polynomial "
      ++ "(e.g., x^2 - 3x + 2)")
    else message))
  traceSection members
  stop

def showRoots : List Json → Part Unit
  | [] => pure ()
  | root :: rest => do
    let text ← check (rootText root)
    put (.line (bullet text))
    showRoots rest

/-- Says how many roots are missing when a reply reports some. -/
def showMissing (members : List (String × Json)) : Part Unit := do
  let verification := Json.memberOr "verification" .null members
  if !verification.isVoid then
    let verification ← check (membersOf verification)
    if (Json.memberOr "complete" (.bool true) verification).isVoid then
      let found ← check (demand "found_roots" verification)
      let expected ← check (demand "expected_roots" verification)
      put (.info (s!"Found {found.display} of {expected.display} roots; "
        ++ "the numerical search does not report complex roots above degree 3."))

/-- What is shown of a solution with roots. -/
def showSuccess (expression : String) (members : List (String × Json)) : Part Unit := do
  put (.subheader "Results")
  let formatted := Json.memberOr "formatted" .null members
  let shown := if formatted.isVoid then expression else formatted.display
  put (.markdown ("**Polynomial:** `" ++ shown ++ "`"))
  put (.markdown "**Roots:**")
  let roots ← check (demand "roots" members)
  let roots ← check (itemsOf roots)
  showRoots roots
  showMissing members
  put (.subheader "Steps")
  let steps ← check (itemsOf (Json.memberOr "steps" (.array []) members))
  let lines ← check (steps.mapM stepText)
  put (.line ("\n".intercalate lines))
  traceSection members
  let path := Json.memberOr "trace_path" .null members
  if !path.isVoid then put (.caption ("Trace saved to " ++ path.display))

/-- What is shown of a reply. -/
def showReply (expression : String) (response : Response) : Part Unit := do
  if response.status ≠ 200 then
    put (.error (.string ("Solve error: " ++ response.text)))
    stop
  let content ← check (response.content.mapError .unreadable)
  let members ← check (membersOf content)
  if (Json.memberOr "ok" (.bool false) members).isVoid then showFailure members
  else showSuccess expression members

/-- What follows when the form has been submitted; `server` answers the request. -/
def submitted (server : Json → Except Fault Response) (expression : String) : Part Unit := do
  let stripped := String.ofList (Text.strip expression.toList)
  if stripped.isEmpty then
    put (.warning "Please enter a polynomial expression")
    stop
  put (.progress "Solving...")
  let body := Json.object [("expression", .string stripped)]
  put (.request (address ++ "/solve") body)
  let response ← check (server body)
  showReply expression response

/-- What is shown after the form, and the fault that broke the page off, if one did. -/
def run (server : Json → Except Fault Response) (submit : Bool) (expression : String) :
    List Element × Option Fault :=
  if submit then
    match (submitted server expression).run [] with
    | (.error (.broken fault), elements) => (elements, some fault)
    | (_, elements) => (elements, none)
  else ([], none)

end RootFinder.Page
