import RootFinder.Binary64.Exact
import RootFinder.Polynomial.Substitution

/-! Points of the plane, infinite ones included, and polynomials at them. The powers of a point on
an axis lie on the axes, so that no zero part meets an infinity. Off the axes an infinity decides
alone: an infinite coefficient leaves of a finite factor nothing but that it was there, and the
powers of an infinite point above the first are infinite without a direction. -/
namespace RootFinder.Binary64

open RootFinder.Polynomial (realPower complexPower)

/-- A point on one of the axes, one with two parts, or an infinity without a direction. -/
inductive Point
  | real (x : Exact)
  | imaginary (y : Exact)
  | both (x y : Exact)
  | directionless
deriving DecidableEq

namespace Point

def undefined : Point := real .undefined

/-- The point of two parts; one with an undefined part is undefined. -/
def of (x y : Exact) : Point :=
  if x = .undefined ∨ y = .undefined then undefined
  else if y = 0 then real x
  else if x = 0 then imaginary y
  else both x y

def realPart : Point → Exact
  | real x | both x _ => x
  | imaginary _ => 0
  | directionless => .undefined

def imaginaryPart : Point → Exact
  | imaginary y | both _ y => y
  | real _ => 0
  | directionless => .undefined

def isFinite (p : Point) : Bool := p.realPart.isFinite && p.imaginaryPart.isFinite

/-- A point of the real axis after some quarter turns. -/
def turned (x : Exact) (turns : Nat) : Point :=
  match turns % 4 with
  | 0 => real x
  | 1 => imaginary x
  | 2 => real (-x)
  | _ => imaginary (-x)

/-- The power zero is one for every point. -/
def power : Point → Nat → Point
  | _, 0 => real 1
  | p, 1 => p
  | real x, n => real (realPower x n)
  | imaginary y, n => turned (realPower y n) n
  | both x y, n =>
    if x.isFinite && y.isFinite then both (complexPower x y n).1 (complexPower x y n).2
    else directionless
  | directionless, _ => directionless

/-- A coefficient times a point. An infinite one off the axes has the sign of its product with an
infinite real part, or else its own. -/
def scale (c : Exact) : Point → Point
  | real x => real (c * x)
  | imaginary y => imaginary (c * y)
  | both x y =>
    if c.isFinite then both (c * x) (c * y) else real (if x.isFinite then c else c * x)
  | directionless => if c = .undefined then undefined else directionless

/-- An infinity without direction is left unchanged by finite points only. -/
def add : Point → Point → Point
  | directionless, p | p, directionless => if p.isFinite then directionless else undefined
  | p, q => both (p.realPart + q.realPart) (p.imaginaryPart + q.imaginaryPart)

/-- The value of a polynomial; terms with coefficient zero are left out. -/
def value (p : Point) : List Exact → Point
  | [] => real 0
  | c :: rest => if c == 0 then value p rest else add (scale c (power p rest.length)) (value p rest)

/-- The distance from the origin, rounded. -/
def magnitude : Point → Float
  | directionless => ofParts (.infinite false)
  | p => p.realPart.distance p.imaginaryPart

end Point

end RootFinder.Binary64
