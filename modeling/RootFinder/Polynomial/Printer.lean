import RootFinder.Decimal.Display

/-! The text of a coefficient vector, highest power first: terms that are zero are left out, a
coefficient of one is not written before the unknown, and every magnitude is written plainly,
without a power of ten. -/
namespace RootFinder.Polynomial

/-- A magnitude without a power of ten; whole ones have no point. -/
def magnitude (x : Float) : List Char :=
  match Binary64.parts x with
  | .undefined => Decimal.documents.undefined.toList
  | .infinite _ => Decimal.documents.infinite.toList
  | .finite _ rank =>
    if Binary64.isWhole rank then Decimal.decimalDigits (Binary64.units rank / Binary64.one)
    else (Decimal.shortest rank).plain

/-- The unknown to a power; nothing for the power zero. -/
def unknown : Nat → List Char
  | 0 => []
  | 1 => ['x']
  | power => 'x' :: '^' :: Decimal.decimalDigits power

/-- One or minus one. -/
def isUnit (x : Float) : Bool :=
  match Binary64.parts x with
  | .finite _ rank => rank == Binary64.unitRank
  | _ => false

/-- A term without its sign. -/
def body (coefficient : Float) (power : Nat) : List Char :=
  if isUnit coefficient && power != 0 then unknown power
  else magnitude coefficient ++ unknown power

/-- The sign before the first term, or between two. -/
def sign (first negative : Bool) : List Char :=
  match first, negative with
  | true, true => ['-']
  | true, false => []
  | false, true => [' ', '-', ' ']
  | false, false => [' ', '+', ' ']

/-- The terms of a vector; `first` until one has been written. -/
def write (first : Bool) : List Float → List Char
  | [] => []
  | c :: rest =>
    if Binary64.isZero c then write first rest
    else sign first (Binary64.isBelowZero c) ++ body c rest.length ++ write false rest

/-- The text of a vector; that of one without terms is a zero, and that of none is empty. -/
def text (coefficients : List Float) : List Char :=
  if coefficients.isEmpty then []
  else if coefficients.all Binary64.isZero then ['0']
  else write true coefficients

def format (coefficients : List Float) : String := String.ofList (text coefficients)

end RootFinder.Polynomial
