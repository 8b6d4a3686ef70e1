import RootFinder.Binary64
import RootFinder.Binary64.Power.Table

/-! Powers of doubles: the exponent times the logarithm of the magnitude, both in two parts, and the
exponential of that. The logarithm is read off a table of intervals and corrected by a polynomial,
the exponential off a table of powers of two. Every step is an operation on doubles, so the last
digit of a power is settled here and does not depend on a machine. -/
namespace RootFinder.Binary64.Power

/-- A number as the sum of two doubles, the second much the smaller. -/
structure Split where
  high : Float
  low : Float

/-- A double without its last `count` bits. -/
def cut (count : Nat) (x : Float) : Float :=
  Float.ofBits (UInt64.ofNat (x.toBits.toNat / 2 ^ count * 2 ^ count))

/-- `a + b * x`, for codes `a` and `b`. -/
def line (a b : UInt64) (x : Float) : Float := Float.ofBits a + x * Float.ofBits b

def unit : Float := make false unitRank

/-- The rank at which the intervals of the table begin; they cover one octave. -/
def firstRank : Int := 0x3FE6955500000000

/-- A rank continued below the smallest normal one, as if no precision were lost there. -/
def extendedRank (rank : Nat) : Int :=
  if rank < 2 ^ 52 then
    (make false rank * make false (1075 * 2 ^ 52)).toBits.toNat - 52 * 2 ^ 52
  else rank

/-- The logarithm of the magnitude of an extended rank. -/
def logarithm (rank : Int) : Split :=
  let octave := (rank - firstRank) / 2 ^ 52
  let interval := intervals.getD ((rank - firstRank) / 2 ^ 45 % 128).toNat ⟨0, 0, 0⟩
  let place := (rank - octave * 2 ^ 52).toNat
  let inverse := Float.ofBits interval.inverse
  let count := Float.ofInt octave
  -- the quotient of the magnitude by the middle of its interval, less one
  let near := cut 32 (make false (place + 2 ^ 31))
  let high := near * inverse - unit
  let low := (make false place - near) * inverse
  let r := high + low
  let main := count * Float.ofBits 0x3FE62E42FEFA3800 + Float.ofBits interval.logarithm
  let sum := main + r
  let lost := count * Float.ofBits 0x3D2EF35793C76730 + Float.ofBits interval.rest
  let lostInSum := main - sum + r
  let minusHalf := Float.ofBits 0xBFE0000000000000
  let slope := minusHalf * r
  let square := r * slope
  let highSlope := minusHalf * high
  let highSquare := high * highSlope
  let total := sum + highSquare
  let lostInSquare := low * (slope + highSlope)
  let lostInTotal := sum - total + highSquare
  let tail := r * square *
    (line 0xBFE5555555555560 0x3FE0000000000006 r + square *
      (line 0x3FE999999959554E 0xBFE555555529A47A r + square *
        line 0xBFF2495B9B4845E9 0x3FF0002B8B263FC3 r))
  let correction := lost + lostInSum + lostInSquare + lostInTotal + tail
  let result := total + correction
  ⟨result, total - result + correction⟩

/-- A power of two near the ends of the range, given by its extended rank, times one more than a
small number. Below the normal magnitudes the sum is rounded to the places that are left. -/
def beyond (rank : Int) (more : Float) : Float :=
  if 0 ≤ rank - unitRank then
    let s := make false (rank - 1009 * 2 ^ 52).toNat
    make false ((1023 + 1009) * 2 ^ 52) * (s + s * more)
  else
    let s := make false (rank + 1022 * 2 ^ 52).toNat
    let y := s + s * more
    let smallest := make false (2 ^ 52)
    if y < unit then
      let high := unit + y
      let low := unit - high + y + (s - y + s * more)
      smallest * (high + low - unit)
    else smallest * y

/-- A number so large that adding it leaves no fraction. -/
def noFraction : Float := Float.ofBits 0x4338000000000000

/-- The exponential: the nearest power of two to a 128th, times the exponential of the rest. -/
def exponential (x : Split) : Float :=
  let size := x.high.toBits.toNat % signPlace / 2 ^ 52
  if size < 0x3C9 then unit + x.high
  else if 0x409 ≤ size then make false (if isNegative x.high then 0 else infinity)
  else
    let shifted := Float.ofBits 0x40671547652B82FE * x.high + noFraction
    let count : Int := shifted.toBits.toNat - noFraction.toBits.toNat
    let whole := shifted - noFraction
    let fraction := fractions.getD (count % 128).toNat ⟨0, 0⟩
    let r := x.high + whole * Float.ofBits 0xBF762E42FEFA0000
      + whole * Float.ofBits 0xBD0CF79ABC9E3B3A + x.low
    let square := r * r
    let more := Float.ofBits fraction.rest + r
      + square * line 0x3FDFFFFFFFFFFDBD 0x3FC555555555543C r
      + square * square * line 0x3FA55555CF172B91 0x3F81111167A4D017 r
    let rank : Int := fraction.value.toNat + count / 128 * 2 ^ 52
    if 0x408 ≤ size then beyond rank more
    else make false rank.toNat + make false rank.toNat * more

/-- A finite magnitude to the power of a positive number, infinite when that is too large. -/
def magnitude (rank : Nat) (exponent : Float) : Float :=
  if rank = 0 then make false 0
  else
    let log := logarithm (extendedRank rank)
    let high := cut 27 log.high
    let low := log.high - high + log.low
    let exponentHigh := cut 27 exponent
    exponential ⟨exponentHigh * high, (exponent - exponentHigh) * high + exponent * low⟩

end RootFinder.Binary64.Power
