import RootFinder.Decimal
import RootFinder.Decimal.Rounding

/-! Doubles as integers. The magnitudes are counted upwards from zero: the *rank* of a magnitude
is its place in that count, and every finite one is a whole number of units of 2^-1074. Reading a
quotient or a decimal picks the nearest magnitude, of two equally near the one of even rank. -/
namespace RootFinder.Binary64

/-- Units in one. -/
def one : Nat := 2 ^ 1074

/-- The rank after the largest finite one. -/
def infinity : Nat := 2047 * 2 ^ 52

def signPlace : Nat := 2 ^ 63

/-- The size of a finite magnitude in units. -/
def units (rank : Nat) : Nat :=
  if rank < 2 ^ 52 then rank
  else (2 ^ 52 + rank % 2 ^ 52) * 2 ^ (rank / 2 ^ 52 - 1)

/-- The rank nearest to `num / den`; `infinity` or more when that lies beyond the finite ones. -/
def nearest (num den : Nat) : Nat :=
  let target := num * one
  let shift := (target / den).log2 - 52
  shift * 2 ^ 52 + roundDiv target (den * 2 ^ shift)

/-- The rank nearest to a decimal. A decimal of more than 310 digits before the point lies beyond
the finite magnitudes, and one that begins more than 400 places after it is nearest to zero. -/
def ofDecimal (d : Decimal) : Nat :=
  let size := (Decimal.decimalDigits d.coefficient).length + d.exponent
  if d.coefficient = 0 then 0
  else if 310 < size then infinity
  else if size < -400 then 0
  else min infinity (nearest d.fraction.1 d.fraction.2)

/-- A double taken apart. -/
inductive Parts
  | finite (negative : Bool) (rank : Nat)
  | infinite (negative : Bool)
  | undefined
deriving DecidableEq, Repr

def parts (x : Float) : Parts :=
  let code := x.toBits.toNat
  let rank := code % signPlace
  let negative := decide (signPlace ≤ code)
  if rank < infinity then .finite negative rank
  else if rank = infinity then .infinite negative
  else .undefined

/-- The double of a sign and a rank up to `infinity`. -/
def make (negative : Bool) (rank : Nat) : Float :=
  Float.ofBits (UInt64.ofNat (rank + if negative then signPlace else 0))

def ofParts : Parts → Float
  | .finite negative rank => make negative rank
  | .infinite negative => make negative infinity
  | .undefined => Float.ofBits 0x7FF8000000000000

/-- The sign, also of a zero. -/
def isNegative (x : Float) : Bool := signPlace ≤ x.toBits.toNat

def isZero (x : Float) : Bool :=
  match parts x with
  | .finite _ rank => rank == 0
  | _ => false

def isFinite (x : Float) : Bool :=
  match parts x with
  | .finite _ _ => true
  | _ => false

/-- Less than zero; neither zero is. -/
def isBelowZero (x : Float) : Bool :=
  match parts x with
  | .finite negative rank => negative && rank != 0
  | .infinite negative => negative
  | .undefined => false

/-- Greater than zero. -/
def isAboveZero (x : Float) : Bool :=
  match parts x with
  | .finite negative rank => !negative && rank != 0
  | .infinite negative => !negative
  | .undefined => false

/-- The rank of one. -/
def unitRank : Nat := 1023 * 2 ^ 52

/-- The nearest double to a signed decimal, infinite when that is too large. -/
def read (negative : Bool) (d : Decimal) : Float := make negative (ofDecimal d)

/-- The rank nearest to a whole number. -/
def ofNatural (n : Nat) : Nat := ofDecimal ⟨n, 0⟩

/-- The nearest double to a whole number, none when that would be infinite. -/
def ofInteger? (n : Int) : Option Float :=
  let rank := ofNatural n.natAbs
  if rank < infinity then some (make (n < 0) rank) else none

def isWhole (rank : Nat) : Bool := units rank % one == 0

theorem nearest_zero (den : Nat) : nearest 0 den = 0 := by
  have h : Nat.log2 0 = 0 := by decide
  simp [nearest, roundDiv_zero, h]

end RootFinder.Binary64
