import RootFinder.Binary64

/-! Exact numbers that hold every double: dyadic fractions, two infinities, and an undefined one.
What is calculated with them is rounded once, at the end. -/
namespace RootFinder.Binary64

inductive Exact
  | finite (value : Dyadic)
  | infinite (negative : Bool)
  | undefined
deriving DecidableEq

namespace Exact

def isFinite : Exact → Bool
  | finite _ => true
  | _ => false

def ofFloat (x : Float) : Exact :=
  match parts x with
  | .finite negative rank =>
    finite (.ofIntWithPrec (if negative then -(units rank : Int) else units rank) 1074)
  | .infinite negative => infinite negative
  | .undefined => undefined

def add : Exact → Exact → Exact
  | finite a, finite b => finite (a + b)
  | finite _, infinite s => infinite s
  | infinite s, finite _ => infinite s
  | infinite s, infinite t => if s = t then infinite s else undefined
  | _, _ => undefined

def neg : Exact → Exact
  | finite a => finite (-a)
  | infinite s => infinite (!s)
  | undefined => undefined

/-- An infinity times a number of this sign; times zero it is undefined. -/
def scale (negative : Bool) (a : Dyadic) : Exact :=
  if a = 0 then undefined else infinite (negative != decide (a < 0))

def mul : Exact → Exact → Exact
  | finite a, finite b => finite (a * b)
  | finite a, infinite s => scale s a
  | infinite s, finite a => scale s a
  | infinite s, infinite t => infinite (s != t)
  | _, _ => undefined

instance : Zero Exact := ⟨finite 0⟩
instance : One Exact := ⟨finite 1⟩
instance : Add Exact := ⟨add⟩
instance : Neg Exact := ⟨neg⟩
instance : Sub Exact := ⟨fun a b => add a (neg b)⟩
instance : Mul Exact := ⟨mul⟩

/-- Numerator and denominator of the magnitude of a dyadic fraction. -/
def fraction : Dyadic → Nat × Nat
  | .zero => (0, 1)
  | .ofOdd n k _ => (n.natAbs * 2 ^ (-k).toNat, 2 ^ k.toNat)

/-- The magnitude, rounded. -/
def magnitude : Exact → Float
  | finite a => make false (min infinity (nearest (fraction a).1 (fraction a).2))
  | infinite _ => ofParts (.infinite false)
  | undefined => ofParts .undefined

/-- Bits of a square root beyond those of its argument. -/
def guardBits : Nat := 64

/-- A fraction on the same side as the square root of `num / 2 ^ (2 * half)` of every fraction
with few enough bits, and equal to it if it is one of them. -/
def rootFraction (num half : Nat) : Nat × Nat :=
  let square := num * 2 ^ (2 * guardBits)
  let root := square.sqrt
  (2 * root + if root * root = square then 0 else 1, 2 ^ (half + guardBits + 1))

/-- The square root of a dyadic fraction, rounded. -/
def squareRoot (a : Dyadic) : Float :=
  let (num, half) := match a with
    | .zero => (0, 0)
    | .ofOdd n k _ =>
      let up := (k.toNat + 1) / 2
      (n.natAbs * 2 ^ (2 * (up : Int) - k).toNat, up)
  let (num, den) := rootFraction num half
  make false (min infinity (nearest num den))

/-- The distance of a point of the plane from the origin, rounded. -/
def distance : Exact → Exact → Float
  | finite a, finite b => squareRoot (a * a + b * b)
  | undefined, _ | _, undefined => ofParts .undefined
  | _, _ => ofParts (.infinite false)

end Exact

end RootFinder.Binary64
