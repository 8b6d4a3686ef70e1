import RootFinder.Arithmetic
import RootFinder.Binary64

/-! Rounding a double to decimal places: the exact value goes to the nearest multiple of a power
of ten, a half to the even one, and that multiple to the nearest double. -/
namespace RootFinder.Binary64

/-- The rank of a magnitude rounded to `places` places. More than 323 places hold every double;
a multiple of `10 ^ 309` or more is zero, since half of it lies beyond every double. -/
def roundRank (places : Int) (rank : Nat) : Nat :=
  if 323 < places then rank
  else if places < -308 then 0
  else
    let up := 10 ^ places.toNat
    let down := 10 ^ (-places).toNat
    nearest (roundDiv (units rank * up) (one * down) * down) up

/-- Rounds to `places` places, counted to the left of the point when negative. -/
def round (places : Int) (x : Float) : Except Fault Float :=
  match parts x with
  | .finite negative rank =>
    let r := roundRank places rank
    if infinity ≤ r then .error .roundedTooLarge else .ok (make negative r)
  | _ => .ok x

/-- Turns the negative zero into the positive one. -/
def foldZero (x : Float) : Float := if isZero x then make false 0 else x

end RootFinder.Binary64
