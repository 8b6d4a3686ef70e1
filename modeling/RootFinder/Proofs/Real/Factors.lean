import Mathlib
import RootFinder.Proofs.Polynomial.Formal
import RootFinder.Root

/-! When a list of numbers holds all roots of a polynomial: their linear factors make up the
polynomial. Whether that is so can be told from the sums and products of the roots. -/
namespace RootFinder

noncomputable def Root.toComplex : Root ℝ → ℂ
  | .real x => x
  | .complex re im => re + im * Complex.I

/-- These are all the roots of the polynomial with a leading and some more coefficients, each as
often as it is a root. -/
def Complete (leading : ℝ) (rest : List ℝ) (zs : List ℂ) : Prop :=
  Polynomial.C (leading : ℂ) * (zs.map fun z => Polynomial.X - Polynomial.C z).prod =
    Polynomial.formal ((leading :: rest).map Complex.ofReal)

namespace Complete

variable {a b c d : ℝ} {x y z : ℂ} {zs : List ℂ}

theorem linear (value : a * x = -b) : Complete a [b] [x] := by
  have constant : (b : ℂ) = -(a * x) := neg_eq_iff_eq_neg.mp value.symm
  simp only [Complete, Polynomial.formal, List.map, List.prod_cons, List.prod_nil, constant,
    ← Polynomial.C_mul_X_pow_eq_monomial, List.length, map_neg, map_mul]
  ring

/-- The sum and the product of two roots. -/
theorem quadratic (sum : a * (x + y) = -b) (product : a * (x * y) = c) :
    Complete a [b, c] [x, y] := by
  have middle : (b : ℂ) = -(a * (x + y)) := neg_eq_iff_eq_neg.mp sum.symm
  simp only [Complete, Polynomial.formal, List.map, List.prod_cons, List.prod_nil, middle,
    ← product, ← Polynomial.C_mul_X_pow_eq_monomial, List.length, map_neg, map_mul, map_add]
  ring

theorem quadratic_real {x y : ℝ} (sum : a * (x + y) = -b) (product : a * (x * y) = c) :
    Complete a [b, c] [(x : ℂ), (y : ℂ)] := by
  refine .quadratic ?_ ?_
  · exact_mod_cast sum
  · exact_mod_cast product

/-- The product of conjugates is the square of their distance from zero. -/
theorem quadratic_conjugates {re im : ℝ} (sum : a * (re + re) = -b)
    (norm : a * (re ^ 2 + im ^ 2) = c) :
    Complete a [b, c] [Root.toComplex (.complex re im), Root.toComplex (.complex re (-im))] := by
  have complexSum : (a : ℂ) * (re + re) = -b := by exact_mod_cast sum
  have complexNorm : (a : ℂ) * (re ^ 2 + im ^ 2) = c := by exact_mod_cast norm
  refine .quadratic ?_ ?_
  · simp only [Root.toComplex]
    push_cast
    linear_combination complexSum
  · simp only [Root.toComplex]
    push_cast
    linear_combination complexNorm - a * im ^ 2 * Complex.I_sq

/-- The sum of three roots, the sum of their products in pairs, and their product. -/
theorem cubic (sum : a * (x + y + z) = -b) (pairs : a * (x * y + x * z + y * z) = c)
    (product : a * (x * y * z) = -d) : Complete a [b, c, d] [x, y, z] := by
  have first : (b : ℂ) = -(a * (x + y + z)) := neg_eq_iff_eq_neg.mp sum.symm
  have last : (d : ℂ) = -(a * (x * y * z)) := neg_eq_iff_eq_neg.mp product.symm
  simp only [Complete, Polynomial.formal, List.map, List.prod_cons, List.prod_nil, first, ← pairs,
    last, ← Polynomial.C_mul_X_pow_eq_monomial, List.length, map_neg, map_mul, map_add]
  ring

/-- A root at zero may be split off. -/
theorem zero_cons (rest : Complete a [b, c] zs) : Complete a [b, c, 0] (0 :: zs) := by
  have shifted : (a :: [b, c, 0]).map Complex.ofReal =
      (a :: [b, c]).map Complex.ofReal ++ List.replicate 1 0 := by simp
  unfold Complete at rest ⊢
  rw [shifted, Polynomial.formal_append_zeros, ← rest]
  simp only [List.map_cons, List.prod_cons, map_zero, sub_zero, pow_one]
  ring

end Complete

end RootFinder
