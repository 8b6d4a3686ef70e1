import RootFinder.Decimal.Shortest

/-! Texts of doubles: the shortest one that reads back, the one with a fixed number of places, and
the one with a power of ten. -/
namespace RootFinder.Decimal

open Binary64 (parts units one)

/-- The choices a format leaves open. -/
structure Style where
  /-- Least decimal exponent written without a power of ten. -/
  plainFrom : Int
  /-- Least decimal exponent above it that needs one again. -/
  plainUpTo : Int
  infinite : String
  undefined : String

/-- Numbers in messages. -/
def messages : Style := ⟨-4, 16, "inf", "nan"⟩

/-- Numbers in documents. -/
def documents : Style := ⟨-4, 16, "Infinity", "NaN"⟩

def signed (negative : Bool) (text : List Char) : List Char :=
  if negative then '-' :: text else text

/-- A power of ten carries its sign and at least two digits. -/
def power (exponent : Int) : List Char :=
  let digits := decimalDigits exponent.natAbs
  'e' :: (if exponent < 0 then '-' else '+') :: List.replicate (2 - digits.length) '0' ++ digits

/-- One digit before the point, the others after it. -/
def leadingDigit : List Char → List Char
  | first :: second :: rest => first :: '.' :: second :: rest
  | digits => digits

/-- At least one place is shown, were it a zero. -/
def withPlace (d : Decimal) : List Char :=
  if 0 ≤ d.exponent then d.plain ++ ['.', '0'] else d.plain

def Style.write (style : Style) (d : Decimal) : List Char :=
  let digits := decimalDigits d.coefficient
  let exponent := digits.length + d.exponent - 1
  if style.plainFrom ≤ exponent ∧ exponent < style.plainUpTo then withPlace d
  else leadingDigit digits ++ power exponent

/-- The shortest text that reads back. -/
def Style.text (style : Style) (x : Float) : String :=
  match parts x with
  | .undefined => style.undefined
  | .infinite negative => String.ofList (signed negative style.infinite.toList)
  | .finite negative rank =>
    let d := if rank = 0 then ⟨0, 0⟩ else shortest rank
    String.ofList (signed negative (style.write d))

/-- A magnitude rounded to a number of places. -/
def rounded (places rank : Nat) : Decimal :=
  ⟨roundDiv (units rank * 10 ^ places) one, -(places : Int)⟩

def unbounded (negative : Bool) : List Char := signed negative messages.infinite.toList

/-- The text with exactly `places` places after the point. -/
def fixed (places : Nat) (x : Float) : String :=
  match parts x with
  | .undefined => messages.undefined
  | .infinite negative => String.ofList (unbounded negative)
  | .finite negative rank => String.ofList (signed negative (rounded places rank).plain)

/-- One digit and `places` more, rounded. -/
def significant (places rank : Nat) : Decimal :=
  let place := leadingPlace rank - (places + 1 : Nat)
  let n := roundDiv (units rank * 10 ^ (-place).toNat) (one * 10 ^ place.toNat)
  if n = 10 ^ (places + 1) then ⟨n / 10, place + 1⟩ else ⟨n, place⟩

/-- The text with one digit before the point, `places` after it, and a power of ten. -/
def scientific (places : Nat) (x : Float) : String :=
  match parts x with
  | .undefined => messages.undefined
  | .infinite negative => String.ofList (unbounded negative)
  | .finite negative rank =>
    let d := if rank = 0 then ⟨0, 0⟩ else significant places rank
    let digits := decimalDigits d.coefficient
    let digits := digits ++ List.replicate (places + 1 - digits.length) '0'
    let exponent := if rank = 0 then 0 else d.exponent + places
    String.ofList (signed negative (leadingDigit digits ++ power exponent))

end RootFinder.Decimal
