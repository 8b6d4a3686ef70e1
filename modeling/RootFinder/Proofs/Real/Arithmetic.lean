import Mathlib
import RootFinder.ClosedForm

/-! Exact real numbers as an arithmetic. Every operation is the function that it stands for, and has
no result just where that function has none. -/
namespace RootFinder

open Scalar Approximate Elementary

noncomputable def signedCubeRoot (x : ℝ) : ℝ :=
  if x < 0 then -(-x) ^ ((3 : ℕ)⁻¹ : ℝ) else x ^ ((3 : ℕ)⁻¹ : ℝ)

open Classical in
noncomputable instance : Elementary ℝ where
  whole n := n
  decimal d := d.coefficient * (10 : ℝ) ^ d.exponent
  pi := Real.pi
  less a b := decide (a < b)
  same a b := decide (a = b)
  magnitude x := |x|
  quotient a b := if b = 0 then .error .divisionByZero else .ok (a / b)
  power x n := .ok (x ^ n)
  squareRoot x := if x < 0 then .error .outsideDomain else .ok √x
  cubeRoot := signedCubeRoot
  cosine := Real.cos
  arcCosine x := if x < -1 ∨ 1 < x then .error .outsideDomain else .ok (Real.arccos x)

namespace Reals

variable {a b x : ℝ}

@[simp] theorem whole_eq (n : Nat) : (whole n : ℝ) = n := rfl

@[simp] theorem magnitude_eq : magnitude x = |x| := rfl

@[simp] theorem power_eq (n : Nat) : power x n = .ok (x ^ n) := rfl

@[simp] theorem less_iff : less a b = true ↔ a < b := decide_eq_true_iff

@[simp] theorem same_iff : same a b = true ↔ a = b := decide_eq_true_iff

theorem atMost_iff : atMost a b = true ↔ a ≤ b := by
  rw [atMost, Bool.or_eq_true, less_iff, same_iff, le_iff_lt_or_eq]

@[simp] theorem isZero_iff : isZero x = true ↔ x = 0 := by simp [isZero]

@[simp] theorem quotient_eq (nonzero : b ≠ 0) : quotient a b = .ok (a / b) := if_neg nonzero

@[simp] theorem squareRoot_eq (nonnegative : 0 ≤ x) : squareRoot x = .ok √x :=
  if_neg (not_lt.mpr nonnegative)

@[simp] theorem arcCosine_eq (low : -1 ≤ x) (high : x ≤ 1) :
    arcCosine x = .ok (Real.arccos x) := by
  refine if_neg ?_
  rw [not_or, not_lt, not_lt]
  exact ⟨low, high⟩

theorem small_eq : (ClosedForm.smallDiscriminant : ℝ) = 1e-10 := by
  have decimal : (ClosedForm.smallDiscriminant : ℝ) =
      ((1 : Nat) : ℝ) * (10 : ℝ) ^ (-10 : Int) := rfl
  rw [decimal]
  norm_num

section CubeRoot

theorem cubeRoot_cubed (x : ℝ) : cubeRoot x ^ 3 = x := by
  have definition : cubeRoot x = signedCubeRoot x := rfl
  rw [definition, signedCubeRoot]
  split
  next negative =>
    rw [Odd.neg_pow (by decide), Real.rpow_inv_natCast_pow (by linarith) three_ne_zero, neg_neg]
  next nonnegative => exact Real.rpow_inv_natCast_pow (not_lt.mp nonnegative) three_ne_zero

theorem cube_injective : Function.Injective fun x : ℝ => x ^ 3 :=
  (Odd.strictMono_pow (by decide)).injective

end CubeRoot

end Reals

end RootFinder
