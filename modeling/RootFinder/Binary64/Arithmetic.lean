import RootFinder.Arithmetic
import RootFinder.Binary64.Power

/-! Doubles as an arithmetic. Sums, products and quotients run over to infinities silently; only a
power of finite numbers that does so has no result. -/
namespace RootFinder.Binary64

def quotient (a b : Float) : Except Fault Float :=
  if b == 0 then .error .divisionByZero else .ok (a / b)

def power (x : Float) (n : Nat) : Except Fault Float :=
  if n = 0 then .ok 1
  else
    match parts x with
    | .finite negative rank =>
      let y := Power.magnitude rank (Float.ofNat n)
      if y.isInf then .error .powerTooLarge
      else .ok (if negative && n % 2 == 1 then -y else y)
    | .infinite negative => .ok (ofParts (.infinite (negative && n % 2 == 1)))
    | .undefined => .ok x

def squareRoot (x : Float) : Except Fault Float :=
  if x < 0 then .error .outsideDomain else .ok x.sqrt

/-- The two zeros have one arc cosine. -/
def arcCosine (x : Float) : Except Fault Float :=
  if x < -1 || 1 < x then .error .outsideDomain
  else .ok (if isZero x then Float.acos 0 else x.acos)

def third : Float := Float.ofBits 0x3FD5555555555555

/-- The power to a third of the magnitude, with the sign put back. -/
def cubeRoot (x : Float) : Float :=
  match parts x with
  | .finite negative rank =>
    let y := Power.magnitude rank third
    if negative then -y else y
  | _ => x

instance : Elementary Float where
  whole := Float.ofNat
  decimal := read false
  pi := 3.141592653589793
  less a b := a < b
  same a b := a == b
  magnitude := Float.abs
  quotient := quotient
  power := power
  squareRoot := squareRoot
  cubeRoot := cubeRoot
  cosine := Float.cos
  arcCosine := arcCosine

end RootFinder.Binary64
