import Mathlib
import RootFinder.Proofs.Polynomial.Evaluation
import RootFinder.Proofs.Real.Arithmetic
import RootFinder.Proofs.Real.Factors
import RootFinder.Proofs.Verification.Largest
import RootFinder.Verification

/-! The check of roots over exact numbers, with the rounding of what is reported. Real numbers pass
when the value of the polynomial at each of them is within the scaled tolerance. -/
namespace RootFinder

open Scalar Approximate

/-- The residual of a root is the magnitude of the polynomial there. -/
noncomputable instance : Substitution ℝ where
  residual coefficients root :=
    ‖(Polynomial.formal (coefficients.map Complex.ofReal)).eval root.toComplex‖

namespace Reals

/-- The nearest whole number; a half goes to the even neighbour. -/
noncomputable def roundWhole (x : ℝ) : ℤ :=
  if Int.fract x < 1 - Int.fract x then ⌊x⌋
  else if 1 - Int.fract x < Int.fract x then ⌊x⌋ + 1
  else ⌊x⌋ + ⌊x⌋ % 2

noncomputable def roundTo (places : Nat) (x : ℝ) : ℝ :=
  roundWhole (x * (10 ^ places : ℕ)) / (10 ^ places : ℕ)

theorem roundWhole_near (x : ℝ) : |(roundWhole x : ℝ) - x| ≤ 1 / 2 := by
  have low := Int.fract_nonneg x
  have high := Int.fract_lt_one x
  have parts := Int.floor_add_fract x
  unfold roundWhole
  split_ifs with below above
  · rw [abs_le]
    constructor <;> linarith
  · push_cast
    rw [abs_le]
    constructor <;> linarith
  · rcases Int.emod_two_eq_zero_or_one ⌊x⌋ with even | odd
    · rw [even, abs_le]
      constructor <;> push_cast <;> linarith
    · rw [odd, abs_le]
      constructor <;> push_cast <;> linarith

theorem roundTo_near (places : Nat) (x : ℝ) : |roundTo places x - x| ≤ 1 / 2 / 10 ^ places := by
  have unit : (0 : ℝ) < 10 ^ places := by positivity
  have moved : roundTo places x - x =
      (roundWhole (x * 10 ^ places) - x * 10 ^ places) / 10 ^ places := by
    rw [roundTo, Nat.cast_pow, Nat.cast_ofNat, sub_div, mul_div_cancel_right₀ x unit.ne']
  rw [moved, abs_div, abs_of_pos unit]
  exact div_le_div_of_nonneg_right (roundWhole_near _) unit.le

theorem ordered (xs : List ℝ) : Ordered id xs := fun _ _ _ _ => rfl

end Reals

section Substitution

variable {a : ℝ} {rest : List ℝ}

theorem formal_ofReal (cs : List ℝ) : Polynomial.formal (cs.map Complex.ofReal) =
    (Polynomial.formal cs).map Complex.ofRealHom := by
  induction cs with
  | nil => exact Polynomial.map_zero _ |>.symm
  | cons c rest ih =>
    rw [List.map_cons, Polynomial.formal, Polynomial.formal, ih, List.length_map,
      Polynomial.map_add, Polynomial.map_monomial]
    rfl

theorem residual_real (cs : List ℝ) (x : ℝ) :
    Substitution.residual cs (.real x) = |(Polynomial.formal cs).eval x| := by
  have value : (Polynomial.formal (cs.map Complex.ofReal)).eval (x : ℂ) =
      ((Polynomial.formal cs).eval x : ℝ) := by
    rw [formal_ofReal]
    exact Polynomial.eval_map_apply Complex.ofRealHom x
  exact (congrArg norm value).trans (Complex.norm_real _)

end Substitution

namespace Verification

variable {a : ℝ} {rest : List ℝ}

theorem one_le_scale (a : ℝ) (rest : List ℝ) : 1 ≤ scale a rest := by
  have one : (whole 1 : ℝ) ≤ scale a rest :=
    (isLargest_scale (Reals.ordered _)).bound _ List.mem_cons_self
  rwa [Reals.whole_eq, Nat.cast_one] at one

theorem abs_le_scale {c : ℝ} (member : c ∈ a :: rest) : |c| ≤ scale a rest :=
  (isLargest_scale (Reals.ordered _)).bound _
    (List.mem_cons_of_mem _ (List.mem_map_of_mem member))

def Passes (coefficients : List ℝ) (roots : List (Root ℝ)) : Prop :=
  ∃ v, check coefficients roots tolerance = .ok v ∧ v.passed = true

theorem tolerance_eq : (tolerance : ℝ) = 1e-4 := by
  have decimal : (tolerance : ℝ) = ((1 : Nat) : ℝ) * (10 : ℝ) ^ (-4 : Int) := rfl
  rw [decimal]
  norm_num

/-- Real numbers pass when the value at each of them is within the scaled tolerance. -/
theorem passes_iff {points : List ℝ} : Passes (a :: rest) (points.map .real) ↔
    ∀ x ∈ points, |(Polynomial.formal (a :: rest)).eval x| ≤ 1e-4 * scale a rest := by
  have bound : (0 : ℝ) ≤ 1e-4 * scale a rest := by
    have one := one_le_scale a rest
    positivity
  have residuals : (points.map Root.real).map (Substitution.residual (a :: rest)) =
      points.map fun x => |(Polynomial.formal (a :: rest)).eval x| := by
    rw [List.map_map]
    exact List.map_congr_left fun x _ => residual_real _ x
  have passed : Passes (a :: rest) (points.map .real) ↔ atMost
      (worstOf (points.map fun x => |(Polynomial.formal (a :: rest)).eval x|))
        (tolerance * scale a rest) = true := by
    rw [← residuals]
    exact ⟨fun ⟨v, run, passed⟩ => by cases run; exact passed, fun passed => ⟨_, rfl, passed⟩⟩
  rw [passed, Reals.atMost_iff, tolerance_eq]
  cases points with
  | nil => simpa [worstOf] using bound
  | cons x points =>
    have worst : IsLargest id ((x :: points).map fun x => |(Polynomial.formal (a :: rest)).eval x|)
        (worstOf ((x :: points).map fun x => |(Polynomial.formal (a :: rest)).eval x|)) :=
      isLargest_largest (Reals.ordered _)
    exact worst.le_iff.trans List.forall_mem_map

end Verification

end RootFinder
