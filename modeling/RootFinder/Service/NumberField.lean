import RootFinder.Json.Reader
import RootFinder.Text.Blank

/-! Number fields of a request. They accept numbers, yes and no as one and zero, and text that
denotes a number, an infinity or none. -/
namespace RootFinder.Service

open Json.Reader (asciiDigits exponentPart ofDigits)

/-- Names of numbers are known in either case. -/
def lowerAscii (cs : List Char) : List Char := cs.map Char.toLower

/-- The number denoted by a text without a sign. -/
def unsigned? (negative : Bool) (cs : List Char) : Option Float :=
  if lowerAscii cs = "inf".toList ∨ lowerAscii cs = "infinity".toList then
    some (Binary64.ofParts (.infinite negative))
  else if lowerAscii cs = "nan".toList then some (Binary64.ofParts .undefined)
  else
    let whole := asciiDigits cs
    let rest := cs.dropWhile Char.isDigit
    let (fraction, rest) := match rest with
      | '.' :: more => (asciiDigits more, more.dropWhile Char.isDigit)
      | more => ([], more)
    let (exponent, rest) := exponentPart rest
    if rest.isEmpty && !(whole ++ fraction).isEmpty then
      some (Binary64.read negative
        ⟨ofDigits (whole ++ fraction), exponent.getD 0 - fraction.length⟩)
    else none

def signed? : List Char → Option Float
  | '-' :: rest => unsigned? true rest
  | '+' :: rest => unsigned? false rest
  | cs => unsigned? false cs

/-- Single underscores may stand between the characters of a number. -/
def isGrouped (cs : List Char) : Bool :=
  cs.contains '_' && cs.head? != some '_' && cs.getLast? != some '_' &&
    !(cs.zip cs.tail).contains ('_', '_')

/-- The number denoted by a text: white space around it does not count, nor do underscores within
it, but not both at once. -/
def numberOfText? (cs : List Char) : Option Float :=
  match signed? (Text.trim Text.isWhiteSpace cs) with
  | some x => some x
  | none => if isGrouped cs then signed? (cs.filter (· != '_')) else none

/-- Why a value is no number: its kind is wrong, or its text denotes none. -/
inductive NumberFlaw
  | kind
  | text
deriving DecidableEq, Repr

def numberOf : Json → Except NumberFlaw Float
  | .bool b => .ok (if b then 1 else 0)
  | .int n =>
    match Binary64.ofInteger? n with
    | some x => .ok x
    | none => .error .kind
  | .float x => .ok x
  | .string s =>
    match numberOfText? s.toList with
    | some x => .ok x
    | none => .error .text
  | _ => .error .kind

end RootFinder.Service
