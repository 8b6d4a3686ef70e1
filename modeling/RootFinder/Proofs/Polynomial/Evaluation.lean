import Mathlib
import RootFinder.Polynomial.Evaluation
import RootFinder.Proofs.Polynomial.Formal
import RootFinder.Result

/-! Evaluating a vector over exact numbers: the sums of powers are the value and the slope of its
polynomial, and so are the two numbers that Horner's rule keeps. -/
namespace RootFinder.Polynomial

open Scalar

variable {R : Type} [CommSemiring R]

section Formal

theorem eval_formal_cons (x c : R) (rest : List R) :
    (formal (c :: rest)).eval x = c * x ^ rest.length + (formal rest).eval x := by
  rw [formal, Polynomial.eval_add, Polynomial.eval_monomial]

theorem slope_formal_cons (x c : R) (rest : List R) :
    (formal (c :: rest)).derivative.eval x =
      c * rest.length * x ^ (rest.length - 1) + (formal rest).derivative.eval x := by
  rw [formal, Polynomial.derivative_add, Polynomial.eval_add, Polynomial.derivative_monomial,
    Polynomial.eval_monomial]

/-- A factor of all coefficients is a factor of the polynomial. -/
theorem formal_scaled (k : R) (cs : List R) : formal (cs.map (k * ·)) = .C k * formal cs := by
  induction cs with
  | nil => exact (mul_zero _).symm
  | cons c rest ih =>
    rw [List.map_cons, formal, formal, ih, List.length_map, mul_add, Polynomial.C_mul_monomial]

end Formal

section Exact

/-- Exact numbers as an arithmetic: every power has its value, the power zero of zero too. -/
local instance exactArithmetic : Scalar R where
  whole n := n
  power x n := .ok (x ^ n)

theorem whole_exact (n : Nat) : (whole n : R) = n := rfl

theorem power_exact (x : R) (n : Nat) : power x n = .ok (x ^ n) := rfl

/-- Whatever the two sums start from, the value and the slope of the polynomial are added. The last
coefficient has a case of its own, since nothing is added to the slope for it. -/
theorem accumulate_exact (x : R) (cs : List R) (value slope : R) :
    accumulate x cs value slope =
      .ok (value + (formal cs).eval x, slope + (formal cs).derivative.eval x) := by
  induction cs generalizing value slope with
  | nil => simp [accumulate, formal]
  | cons c rest ih =>
    cases rest with
    | nil => simp [accumulate, formal, power_exact]
    | cons d rest =>
      rw [accumulate, eval_formal_cons x c, slope_formal_cons x c]
      simp only [power_exact, ok_bind, ih, whole_exact, List.length_cons, Nat.add_sub_cancel]
      congr 2
      · ring
      · ring

theorem evaluate_exact (cs : List R) (x : R) :
    evaluate cs x = .ok ((formal cs).eval x, (formal cs).derivative.eval x) := by
  rw [evaluate, accumulate_exact, whole_exact, Nat.cast_zero, zero_add, zero_add]

section Horner

/-- Horner's rule for the value and the slope: the next coefficient is added to the value so far
times `x`, and the value so far to the slope so far times `x`. -/
def horner (x : R) : List R → R → R → R × R
  | [], value, slope => (value, slope)
  | c :: rest, value, slope => horner x rest (value * x + c) (slope * x + value)

/-- The two numbers are the value and the slope of the polynomial read so far: after `q`, reading a
coefficient gives `q * X + c`. -/
theorem horner_formal (x : R) (cs : List R) (q : Polynomial R) :
    horner x cs (q.eval x) (q.derivative.eval x) =
      ((q * .X ^ cs.length + formal cs).eval x,
        (q * .X ^ cs.length + formal cs).derivative.eval x) := by
  induction cs generalizing q with
  | nil => simp [horner, formal]
  | cons c rest ih =>
    have value : q.eval x * x + c = (q * .X + .C c).eval x := by simp
    have slope : q.derivative.eval x * x + q.eval x = (q * .X + .C c).derivative.eval x := by simp
    have read : (q * .X + .C c) * .X ^ rest.length + formal rest =
        q * .X ^ (c :: rest).length + formal (c :: rest) := by
      rw [formal, ← Polynomial.C_mul_X_pow_eq_monomial, List.length_cons]
      ring
    rw [horner, value, slope, ih, read]

theorem horner_zero (x : R) (cs : List R) :
    horner x cs 0 0 = ((formal cs).eval x, (formal cs).derivative.eval x) := by
  have read := horner_formal x cs 0
  rwa [Polynomial.derivative_zero, Polynomial.eval_zero, zero_mul, zero_add] at read

end Horner

/-- Over the numbers of a field, or of any commutative semiring, evaluating a vector gives the value
and the slope of the polynomial with its coefficients. Horner's rule gives the same. -/
theorem evaluate_value_slope (cs : List R) (x : R) :
    (∀ n, (formal cs).coeff n = cs.reverse.getD n 0) ∧
      evaluate cs x = .ok ((formal cs).eval x, (formal cs).derivative.eval x) ∧
      evaluate cs x = .ok (horner x cs 0 0) := by
  refine ⟨coeff_formal cs, evaluate_exact cs x, ?_⟩
  rw [evaluate_exact, horner_zero]

example : evaluate [1, -3, 2] (0 : ℤ) = .ok (2, -3) := rfl

end Exact

end RootFinder.Polynomial
