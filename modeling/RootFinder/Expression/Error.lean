import RootFinder.Text.Quoted

/-! Why a text is no polynomial, and where that shows. -/
namespace RootFinder.Expression

/-- What the grammar wants next. -/
inductive Wanted
  | sign
  | term
  | exponent
deriving DecidableEq, Repr

/-- What is wrong at one position of the text. -/
inductive Flaw
  | unexpected (c : Char)
  | expected (wanted : Wanted) (found : Option (List Char))
  | exponentTooLarge
  | coefficientTooLarge
deriving DecidableEq, Repr

/-- The last three concern digits without a place value and values that are no text at all. -/
inductive Error
  | empty
  | invalid (flaw : Flaw) (position : Nat)
  | noDecimal (numeral : List Char)
  | noInteger (digits : List Char)
  | noText (kind : String)
deriving DecidableEq, Repr

/-- The highest exponent accepted. -/
def maxDegree : Nat := 100

def Wanted.name : Wanted → String
  | .sign => "'+' or '-'"
  | .term => "a number or 'x'"
  | .exponent => "a whole-number exponent"

def Flaw.message : Flaw → String
  | .unexpected c => "unexpected " ++ Text.quoted [c]
  | .expected wanted none => "expected " ++ wanted.name ++ ", found end of input"
  | .expected wanted (some text) => "expected " ++ wanted.name ++ ", found " ++ Text.quoted text
  | .exponentTooLarge => s!"exponent exceeds maximum degree {maxDegree}"
  | .coefficientTooLarge => "coefficient out of range"

/-- A wording with the position it speaks of. -/
def located (wording : String) (position : Int) : String := s!"{wording} (at position {position})"

/-- What every text with a flaw is called. -/
def flawed : String := "Invalid polynomial expression"

def Error.message : Error → String
  | .empty => "No polynomial expression provided"
  | .invalid flaw position => located (flawed ++ ": " ++ flaw.message) position
  | .noDecimal numeral => "could not convert string to float: " ++ Text.quoted numeral
  | .noInteger digits => "invalid literal for int() with base 10: " ++ Text.quoted digits
  | .noText kind => s!"expected string or bytes-like object, got '{kind}'"

end RootFinder.Expression
