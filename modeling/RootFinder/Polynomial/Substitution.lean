/-! The value of a polynomial at a real point, and powers of a complex one, by products and sums
alone; terms with coefficient zero are left out. Coefficients stand highest power first. -/
namespace RootFinder.Polynomial

variable {R : Type} [Zero R] [One R] [Add R] [Sub R] [Mul R] [BEq R]

def realPower (x : R) : Nat → R
  | 0 => 1
  | n + 1 => realPower x n * x

def realValue (x : R) : List R → R
  | [] => 0
  | c :: rest =>
    if c == 0 then realValue x rest else c * realPower x rest.length + realValue x rest

/-- Real and imaginary part of a power. -/
def complexPower (re im : R) : Nat → R × R
  | 0 => (1, 0)
  | n + 1 =>
    let p := complexPower re im n
    (p.1 * re - p.2 * im, p.1 * im + p.2 * re)

end RootFinder.Polynomial
