import Mathlib
import RootFinder.Proofs.Real.Verification
import RootFinder.Solution

/-! Checking rounded roots, over exact numbers. Rounding moves a root by half a unit of its last
place at most; what that leaves of the polynomial is governed by the slope near the root, while the
tolerance grows with the coefficients only. -/
namespace RootFinder.Verification

open Approximate

variable {a : ℝ} {rest : List ℝ}

section Slope

/-- A polynomial is small near a root when its slope is. -/
theorem abs_eval_near {p : Polynomial ℝ} {r x δ bound : ℝ} (root : p.eval r = 0)
    (near : |x - r| ≤ δ) (gentle : ∀ y, |y - r| ≤ δ → |p.derivative.eval y| ≤ bound) :
    |p.eval x| ≤ bound * δ := by
  have inside (y : ℝ) : y ∈ Metric.closedBall r δ ↔ |y - r| ≤ δ := by
    rw [Metric.mem_closedBall, Real.dist_eq]
  have steep : 0 ≤ bound := (abs_nonneg _).trans (gentle x near)
  have center : r ∈ Metric.closedBall r δ := by
    rw [inside, sub_self, abs_zero]
    exact (abs_nonneg _).trans near
  have change : ‖p.eval x - p.eval r‖ ≤ bound * ‖x - r‖ :=
    (convex_closedBall r δ).norm_image_sub_le_of_norm_hasDerivWithin_le
      (fun y _ => (p.hasDerivAt y).hasDerivWithinAt)
      (fun y member => gentle y ((inside y).mp member)) center ((inside x).mpr near)
  rw [root, sub_zero, Real.norm_eq_abs, Real.norm_eq_abs] at change
  exact change.trans (mul_le_mul_of_nonneg_left near steep)

/-- The slope is bounded by the coefficients, the degree and the distance from the origin. -/
theorem abs_slope_le {cs : List ℝ} {x bound radius : ℝ} (coefficients : ∀ c ∈ cs, |c| ≤ bound)
    (near : |x| ≤ radius) : |(Polynomial.formal cs).derivative.eval x| ≤
      bound * ∑ i ∈ Finset.range cs.length, i * radius ^ (i - 1) := by
  induction cs with
  | nil => simp [Polynomial.formal]
  | cons c rest ih =>
    obtain ⟨first, others⟩ := List.forall_mem_cons.mp coefficients
    have power : |x ^ (rest.length - 1)| ≤ radius ^ (rest.length - 1) := by
      rw [abs_pow]
      exact pow_le_pow_left₀ (abs_nonneg x) near _
    have term : |c * rest.length * x ^ (rest.length - 1)| ≤
        bound * (rest.length * radius ^ (rest.length - 1)) := by
      rw [mul_assoc, abs_mul, abs_mul, Nat.abs_cast]
      have product := mul_le_mul_of_nonneg_left power (Nat.cast_nonneg (α := ℝ) rest.length)
      exact mul_le_mul first product (by positivity) ((abs_nonneg c).trans first)
    rw [Polynomial.slope_formal_cons, List.length_cons, Finset.sum_range_succ, mul_add, add_comm]
    exact (abs_add_le _ _).trans (add_le_add (ih others) term)

/-- Near a root of a quadratic the slope is at most a few times the largest coefficient: at the root
its square is the discriminant. -/
theorem quadratic_gentle {a b c r x bound : ℝ} (root : a * r ^ 2 + b * r + c = 0)
    (near : |x - r| ≤ 1) (first : |a| ≤ bound) (second : |b| ≤ bound) (third : |c| ≤ bound) :
    |2 * a * x + b| ≤ 5 * bound := by
  have large : 0 ≤ bound := (abs_nonneg a).trans first
  have slope : |2 * a * r + b| ≤ 3 * bound := by
    have product : |a * c| ≤ bound ^ 2 := by
      rw [abs_mul, sq]
      exact mul_le_mul first third (abs_nonneg c) large
    have square : b ^ 2 ≤ bound ^ 2 := sq_le_sq.mpr (second.trans (le_abs_self bound))
    refine abs_le_of_sq_le_sq ?_ (by positivity)
    have discriminant : (2 * a * r + b) ^ 2 = b ^ 2 - 4 * (a * c) := by
      linear_combination 4 * a * root
    rw [discriminant]
    linarith [neg_abs_le (a * c), sq_nonneg bound]
  have moved : |2 * a * (x - r)| ≤ 2 * bound := by
    rw [abs_mul, abs_mul, abs_two]
    have product := mul_le_mul first near (abs_nonneg _) large
    linarith
  calc |2 * a * x + b| = |2 * a * r + b + 2 * a * (x - r)| := by congr 1; ring
    _ ≤ |2 * a * r + b| + |2 * a * (x - r)| := abs_add_le _ _
    _ ≤ 5 * bound := by linarith

end Slope

section Rounded

variable {roots : List ℝ}

/-- Half a unit of the last place that a reported root has. -/
noncomputable def halfUnit : ℝ := ((2 * 10 ^ places : ℕ) : ℝ)⁻¹

noncomputable def reported (roots : List ℝ) : List (Root ℝ) :=
  roots.map fun r => .real (Reals.roundTo places r)

theorem halfUnit_eq : halfUnit = 5e-7 := by
  norm_num [halfUnit, places]

theorem roundTo_within (r : ℝ) : |Reals.roundTo places r - r| ≤ halfUnit := by
  refine (Reals.roundTo_near places r).trans_eq ?_
  norm_num [halfUnit_eq, places]

theorem passes_of_gentle (exact : ∀ r ∈ roots, (Polynomial.formal (a :: rest)).eval r = 0)
    (gentle : ∀ r ∈ roots, ∀ x, |x - r| ≤ halfUnit →
      |(Polynomial.formal (a :: rest)).derivative.eval x| ≤ 200 * scale a rest) :
    Passes (a :: rest) (reported roots) := by
  have points : reported roots = (roots.map (Reals.roundTo places)).map .real := by
    rw [reported, List.map_map]
    rfl
  rw [points, passes_iff, List.forall_mem_map]
  intro r member
  have value := abs_eval_near (exact r member) (roundTo_within r) (gentle r member)
  have half : 200 * scale a rest * halfUnit = 1e-4 * scale a rest := by
    rw [halfUnit_eq]
    ring
  rwa [half] at value

/-- Rounded roots of a polynomial of degree two or less always pass. -/
theorem passes_of_short (exact : ∀ r ∈ roots, (Polynomial.formal (a :: rest)).eval r = 0)
    (short : rest.length ≤ 2) : Passes (a :: rest) (reported roots) := by
  refine passes_of_gentle exact fun r member x near => ?_
  have one := one_le_scale a rest
  have coefficients (c : ℝ) (inside : c ∈ a :: rest) : |c| ≤ scale a rest := abs_le_scale inside
  have root := exact r member
  match rest with
  | [] =>
    simp [Polynomial.formal]
    linarith
  | [b] =>
    have first := coefficients a (by simp)
    simp [Polynomial.formal]
    linarith
  | [b, c] =>
    have value : a * r ^ 2 + b * r + c = 0 := by
      simpa [Polynomial.formal, add_assoc] using root
    have close : |x - r| ≤ 1 := near.trans (by norm_num [halfUnit_eq])
    have gentle :=
      quadratic_gentle value close (coefficients a (by simp)) (coefficients b (by simp))
        (coefficients c (by simp))
    have slope : (Polynomial.formal [a, b, c]).derivative.eval x = 2 * a * x + b := by
      norm_num [Polynomial.formal, mul_comm]
    rw [slope]
    linarith

/-- Rounded roots pass when they are small enough for the degree, whatever the coefficients. -/
theorem passes_of_small (exact : ∀ r ∈ roots, (Polynomial.formal (a :: rest)).eval r = 0)
    (small : ∀ r ∈ roots,
      ∑ i ∈ Finset.range (rest.length + 1), i * (|r| + halfUnit) ^ (i - 1) ≤ 200) :
    Passes (a :: rest) (reported roots) := by
  refine passes_of_gentle exact fun r member x near => ?_
  have radius : |x| ≤ |r| + halfUnit := by
    linarith [abs_sub_abs_le_abs_sub x r]
  have slope := abs_slope_le (fun c (inside : c ∈ a :: rest) => abs_le_scale inside) radius
  have bound := mul_le_mul_of_nonneg_left (small r member) (zero_le_one.trans (one_le_scale a rest))
  rw [mul_comm 200]
  exact slope.trans bound

/-- Exact real roots, rounded, pass the check: always up to degree two; of any degree when they are
small enough for it, whatever the coefficients; and in general when near each of them the slope is
at most two hundred times the scale. -/
theorem passes_reported (exact : ∀ r ∈ roots, (Polynomial.formal (a :: rest)).eval r = 0) :
    (rest.length ≤ 2 → Passes (a :: rest) (reported roots)) ∧
    ((∀ r ∈ roots, ∑ i ∈ Finset.range (rest.length + 1), i * (|r| + halfUnit) ^ (i - 1) ≤ 200) →
      Passes (a :: rest) (reported roots)) ∧
    ((∀ r ∈ roots, ∀ x, |x - r| ≤ halfUnit →
        |(Polynomial.formal (a :: rest)).derivative.eval x| ≤ 200 * scale a rest) →
      Passes (a :: rest) (reported roots)) :=
  ⟨passes_of_short exact, passes_of_small exact, passes_of_gentle exact⟩

/-- The square root of two, as a root of `x ^ 2 - 2` and of `x ^ 4 - 4`. -/
theorem passes_reported_sqrt_two :
    Passes [1, 0, -2] (reported [√2]) ∧ Passes [1, 0, 0, 0, -4] (reported [√2]) := by
  have square : √2 ^ 2 = 2 := Real.sq_sqrt (by norm_num)
  have fourth : √2 ^ 4 = 4 := by
    rw [show √2 ^ 4 = (√2 ^ 2) ^ 2 by ring, square]
    norm_num
  constructor
  · refine (passes_reported ?_).1 (by decide)
    simp [Polynomial.formal, square]
  · refine (passes_reported ?_).2.1 ?_
    · simp [Polynomial.formal, fourth]
    · have small : √2 + halfUnit ≤ 2 := by
        have bound : √2 ≤ 3 / 2 := Real.sqrt_le_iff.mpr (by norm_num)
        rw [halfUnit_eq]
        linarith
      have positive : 0 ≤ √2 + halfUnit := by
        rw [halfUnit_eq]
        positivity
      simp only [List.mem_singleton, forall_eq, abs_of_nonneg (Real.sqrt_nonneg 2)]
      generalize √2 + halfUnit = t at small positive
      have second := pow_le_pow_left₀ positive small 2
      have third := pow_le_pow_left₀ positive small 3
      simp only [List.length_cons, List.length_nil, Finset.sum_range_succ, Finset.sum_range_zero]
      norm_num
      linarith

/-- Not so for a cubic: of `x ^ 3 - 1000.0000004 * x ^ 2` the tolerance, a ten-thousandth of the
largest coefficient, is a tenth, but at the rounded root the value is four times that. -/
theorem not_passes_reported : ¬ ∀ (a : ℝ) (rest roots : List ℝ), a ≠ 0 → 1 ≤ rest.length →
    roots ≠ [] → (∀ r ∈ roots, (Polynomial.formal (a :: rest)).eval r = 0) →
      Passes (a :: rest) (reported roots) := by
  intro always
  have root : (Polynomial.formal [1, -1000.0000004, 0, 0]).eval (1000.0000004 : ℝ) = 0 := by
    norm_num [Polynomial.formal]
  have rounded : Reals.roundTo places 1000.0000004 = 1000 := by
    have floor : ⌊(1000000000.4 : ℝ)⌋ = 1000000000 := by
      rw [Int.floor_eq_iff]
      norm_num
    have product : (1000.0000004 : ℝ) * (10 ^ places : ℕ) = 1000000000.4 := by
      norm_num [places]
    have fraction : Int.fract (1000000000.4 : ℝ) < 1 - Int.fract 1000000000.4 := by
      rw [Int.fract, floor]
      norm_num
    rw [Reals.roundTo, product, Reals.roundWhole, if_pos fraction, floor]
    norm_num [places]
  have passes := always 1 [-1000.0000004, 0, 0] [1000.0000004] one_ne_zero (by simp) (by simp)
    (by simpa using root)
  have points : reported [1000.0000004] = [1000].map Root.real := by
    rw [reported, List.map_singleton, List.map_singleton, rounded]
  have scaled : scale (1 : ℝ) [-1000.0000004, 0, 0] ≤ 1000.0000004 := by
    refine (isLargest_scale (Reals.ordered _)).le_iff.mpr ?_
    norm_num
  have value : |(Polynomial.formal [(1 : ℝ), -1000.0000004, 0, 0]).eval 1000| = 0.4 := by
    norm_num [Polynomial.formal]
  rw [points, passes_iff] at passes
  have near := passes 1000 List.mem_cons_self
  rw [value] at near
  linarith

end Rounded

end RootFinder.Verification
