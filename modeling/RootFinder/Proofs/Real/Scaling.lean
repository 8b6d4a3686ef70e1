import Mathlib
import RootFinder.Proofs.Newton.Exact
import RootFinder.Proofs.Real.Completeness

/-! Multiples of an equation, over exact numbers. The closed forms find the same roots, since every
test and every quotient in them is of two numbers that grow alike; the search goes through the same
points, but accepts one when the value there is below a bound that does not grow. -/
namespace RootFinder

open Scalar Approximate Elementary

namespace ClosedForm

variable {a b c d k : ℝ}

theorem linear_scaled (leading : a ≠ 0) (b : ℝ) (nonzero : k ≠ 0) :
    linear [k * a, k * b] = linear [a, b] := by
  simp only [linear, Reals.quotient_eq leading, Reals.quotient_eq (mul_ne_zero nonzero leading),
    ← mul_neg, mul_div_mul_left _ _ nonzero]

/-- The discriminant grows with the square of the factor, and its square root as the factor. -/
theorem quadraticRoots_scaled (leading : a ≠ 0) (b c : ℝ) (positive : 0 < k) :
    quadraticRoots (k * a) (k * b) (k * c) = quadraticRoots a b c := by
  have square : k * b * (k * b) - 4 * (k * a) * (k * c) = k ^ 2 * (b * b - 4 * a * c) := by ring
  have root (D : ℝ) : √(k ^ 2 * D) = k * √D := by
    rw [Real.sqrt_mul (sq_nonneg k), Real.sqrt_sq positive.le]
  have quotient (x : ℝ) : k * x / (2 * (k * a)) = x / (2 * a) := by
    rw [mul_left_comm, mul_div_mul_left _ _ positive.ne']
  rw [quadraticRoots_eq (mul_ne_zero positive.ne' leading), quadraticRoots_eq leading, square]
  generalize b * b - 4 * a * c = D
  have above : 0 < k ^ 2 * D ↔ 0 < D := mul_pos_iff_of_pos_left (pow_pos positive 2)
  have zero : k ^ 2 * D = 0 ↔ D = 0 := mul_eq_zero_iff_left (pow_pos positive 2).ne'
  simp only [above, zero, ← mul_neg, root, ← mul_add, ← mul_sub, quotient]

/-- Depressing a cubic divides by the leading coefficient. -/
theorem depress_scaled (leading : a ≠ 0) (b c d : ℝ) (nonzero : k ≠ 0) :
    depress (k * a) (k * b) (k * c) (k * d) = depress a b c d := by
  have p : (3 * (k * a) * (k * c) - k * b * (k * b)) / (3 * (k * a) * (k * a)) =
      (3 * a * c - b * b) / (3 * a * a) := by
    field_simp
  have q : (2 * (k * b) ^ 3 - 9 * (k * a) * (k * b) * (k * c) +
      27 * (k * a) * (k * a) * (k * d)) / (27 * (k * a) ^ 3) =
        (2 * b ^ 3 - 9 * a * b * c + 27 * a * a * d) / (27 * a ^ 3) := by
    field_simp
  have shift : k * b / (3 * (k * a)) = b / (3 * a) := by
    field_simp
  simp only [depress, Reals.power_eq, Reals.whole_eq, Nat.cast_ofNat, Reals.quotient_eq, ok_bind,
    ne_eq, mul_eq_zero, OfNat.ofNat_ne_zero, leading, nonzero, or_self, not_false_eq_true,
    pow_eq_zero_iff, p, q, shift]

/-- Without a constant term, the shortcut gives what splitting off the root at zero gives. -/
theorem cubicRoots_zero (leading : a ≠ 0) (b c : ℝ) :
    cubicRoots a b c 0 = (quadraticRoots a b c).map (.real 0 :: ·) := by
  simp only [cubicRoots, Bool.and_eq_true, Reals.same_iff, Reals.isZero_iff, Reals.whole_eq,
    if_true]
  split_ifs with plain
  · obtain ⟨⟨⟨rfl, rfl⟩, rfl⟩, -⟩ := plain
    have four : √(4 : ℝ) = 2 := by
      rw [show (4 : ℝ) = 2 ^ 2 by norm_num, Real.sqrt_sq (by norm_num)]
    rw [quadraticRoots_eq leading]
    norm_num [four, Except.map]
  · norm_num

theorem cubicRoots_nonzero (constant : d ≠ 0) : cubicRoots a b c d = cardano a b c d := by
  simp only [cubicRoots, Bool.and_eq_true, Reals.isZero_iff, constant, and_false, if_false]

theorem cubicRoots_scaled (leading : a ≠ 0) (b c d : ℝ) (positive : 0 < k) :
    cubicRoots (k * a) (k * b) (k * c) (k * d) = cubicRoots a b c d := by
  have multiple := mul_ne_zero positive.ne' leading
  by_cases constant : d = 0
  · subst d
    rw [mul_zero, cubicRoots_zero multiple, cubicRoots_zero leading,
      quadraticRoots_scaled leading b c positive]
  · rw [cubicRoots_nonzero (mul_ne_zero positive.ne' constant), cubicRoots_nonzero constant,
      cardano, depress_scaled leading b c d positive.ne']
    rfl

/-- Over exact numbers Cardano's formulas always have a result, whatever the discriminant. -/
theorem cardano_total (leading : a ≠ 0) (b c d : ℝ) : ∃ roots, cardano a b c d = .ok roots := by
  obtain ⟨t, run, depresses, -⟩ := depress_ok leading b c d
  rw [cardano, run, ok_bind]
  simp only [Reals.less_iff, Reals.magnitude_eq, Reals.whole_eq, Nat.cast_zero]
  split_ifs with small above
  · exact ⟨_, repeatedRoots_eq t⟩
  · exact ⟨_, singleRoot_eq above⟩
  · have nonzero : t.discriminant ≠ 0 := by
      intro none
      rw [none, abs_zero, Reals.small_eq] at small
      norm_num at small
    obtain ⟨roots, x, y, z, found, -⟩ := tripleRoots_solves depresses.discriminant
      (lt_of_le_of_ne (not_lt.mp above) nonzero)
    exact ⟨roots, found⟩

theorem cubicRoots_total (leading : a ≠ 0) (b c d : ℝ) :
    ∃ roots, cubicRoots a b c d = .ok roots := by
  by_cases constant : d = 0
  · subst d
    obtain ⟨roots, run, -⟩ := quadraticRoots_complete leading b c
    rw [cubicRoots_zero leading, run]
    exact ⟨_, rfl⟩
  · rw [cubicRoots_nonzero constant]
    exact cardano_total leading b c d

end ClosedForm

section

variable {a k : ℝ} {rest : List ℝ}

theorem findRoots_run {coefficients : List ℝ} {strategy : Strategy} {roots : List (Root ℝ)}
    (select : Strategy.select? coefficients.length = some strategy)
    (run : strategy.run coefficients = .ok roots) :
    findRoots coefficients = .ok (strategy, roots) := by
  rw [findRoots, select]
  dsimp only
  rw [run]

theorem select_newton (long : 4 ≤ rest.length) :
    Strategy.select? (a :: rest).length = some .newton := by
  have large : 5 ≤ (a :: rest).length := Nat.succ_le_succ long
  unfold Strategy.select?
  rw [if_neg (by omega), if_neg (by omega), if_neg (by omega), if_neg (by omega)]

/-- For a closed form, the strategy and the roots found are the same. -/
theorem closed_scaled (leading : a ≠ 0) (long : 1 ≤ rest.length) (short : rest.length ≤ 3)
    (positive : 0 < k) : ∃ strategy roots, findRoots (a :: rest) = .ok (strategy, roots) ∧
      findRoots ((a :: rest).map (k * ·)) = .ok (strategy, roots) := by
  match rest with
  | [b] =>
    obtain ⟨roots, run, -⟩ := ClosedForm.linear_complete leading b
    have multiple := (ClosedForm.linear_scaled leading b positive.ne').trans run
    exact ⟨.linear, roots, findRoots_run rfl run, findRoots_run rfl multiple⟩
  | [b, c] =>
    obtain ⟨roots, run, -⟩ := ClosedForm.quadraticRoots_complete leading b c
    have multiple := (ClosedForm.quadraticRoots_scaled leading b c positive).trans run
    exact ⟨.quadratic, roots, findRoots_run rfl run, findRoots_run rfl multiple⟩
  | [b, c, d] =>
    obtain ⟨roots, run⟩ := ClosedForm.cubicRoots_total leading b c d
    have multiple := (ClosedForm.cubicRoots_scaled leading b c d positive).trans run
    exact ⟨.cubic, roots, findRoots_run rfl run, findRoots_run rfl multiple⟩

/-- The search on a vector, in terms of its polynomial. -/
theorem findRoots_newton (long : 4 ≤ rest.length) : findRoots (a :: rest) = .ok (.newton,
    (Newton.landings Newton.tolerance (Polynomial.formal (a :: rest))).map .real) :=
  findRoots_run (select_newton long) (Newton.search_exact _)

/-- On a multiple of a vector, the search is that on the vector with another bound. -/
theorem findRoots_newton_scaled (long : 4 ≤ rest.length) (positive : 0 < k) :
    findRoots ((a :: rest).map (k * ·)) = .ok (.newton,
      (Newton.landings (Newton.tolerance / k) (Polynomial.formal (a :: rest))).map .real) := by
  have multiple : 4 ≤ (rest.map (k * ·)).length := by rwa [List.length_map]
  rw [← Newton.landings_scaled positive, ← Polynomial.formal_scaled]
  exact findRoots_newton multiple

end

/-- A positive factor changes neither the strategy nor, up to degree three, the roots found. From
degree four on, the roots found are the landings for the bound divided by the factor; they are the
same unless some point of the iteration has its value between the two bounds. -/
theorem findRoots_scaled {a k : ℝ} {rest : List ℝ} (leading : a ≠ 0) (long : 1 ≤ rest.length)
    (positive : 0 < k) :
    (rest.length ≤ 3 → ∃ strategy roots, findRoots (a :: rest) = .ok (strategy, roots) ∧
      findRoots ((a :: rest).map (k * ·)) = .ok (strategy, roots)) ∧
    (4 ≤ rest.length →
      let p := Polynomial.formal (a :: rest)
      findRoots (a :: rest) =
        .ok (.newton, (Newton.landings Newton.tolerance p).map .real) ∧
      findRoots ((a :: rest).map (k * ·)) =
        .ok (.newton, (Newton.landings (Newton.tolerance / k) p).map .real) ∧
      ((∀ seed ∈ Newton.seeds, ∀ n < Newton.patience,
          |p.eval (p.newtonMap^[n] seed)| < Newton.tolerance ↔
            |p.eval (p.newtonMap^[n] seed)| < Newton.tolerance / k) →
        findRoots ((a :: rest).map (k * ·)) = findRoots (a :: rest))) := by
  refine ⟨fun short => closed_scaled leading long short positive, ?_⟩
  intro many p
  refine ⟨findRoots_newton many, findRoots_newton_scaled many positive, fun alike => ?_⟩
  rw [findRoots_newton many, findRoots_newton_scaled many positive, Newton.landings_congr alike]

section Quartic

def positiveQuartic : List ℝ := [1, 0, 0, 0, 1]

theorem eval_positiveQuartic (x : ℝ) :
    (Polynomial.formal positiveQuartic).eval x = x ^ 4 + 1 := by
  simp [positiveQuartic, Polynomial.formal]

theorem one_le_eval_positiveQuartic (x : ℝ) :
    1 ≤ |(Polynomial.formal positiveQuartic).eval x| := by
  have power : 0 ≤ x ^ 4 := by positivity
  rw [eval_positiveQuartic, abs_of_pos (by positivity)]
  linarith

/-- Twice a quadratic has the same roots, and so has twice a quartic whose values are all far from
zero. -/
theorem findRoots_scaled_twice :
    (∃ strategy roots, findRoots [(1 : ℝ), -3, 2] = .ok (strategy, roots) ∧
      findRoots [(2 : ℝ), -6, 4] = .ok (strategy, roots)) ∧
    findRoots (positiveQuartic.map (2 * ·)) = findRoots positiveQuartic := by
  constructor
  · obtain ⟨strategy, roots, once, twice⟩ :=
      (@findRoots_scaled 1 2 [-3, 2] one_ne_zero (by decide) two_pos).1 (by decide)
    norm_num at twice
    exact ⟨strategy, roots, once, twice⟩
  · have far (bound : ℝ) (small : bound ≤ 1) (x : ℝ) :
        ¬ |(Polynomial.formal positiveQuartic).eval x| < bound :=
      not_lt.mpr (small.trans (one_le_eval_positiveQuartic x))
    have tolerance : (Newton.tolerance : ℝ) ≤ 1 ∧ (Newton.tolerance : ℝ) / 2 ≤ 1 := by
      rw [Newton.tolerance_eq]
      norm_num
    refine ((findRoots_scaled one_ne_zero (by decide) two_pos).2 (by decide)).2.2 ?_
    intro seed _ n _
    exact iff_of_false (far _ tolerance.1 _) (far _ tolerance.2 _)

/-- A small multiple of the quartic is nearly zero at every seed. -/
theorem not_findRoots_scaled : ¬ ∀ (a k : ℝ) (rest : List ℝ), a ≠ 0 → 1 ≤ rest.length → 0 < k →
    findRoots ((a :: rest).map (k * ·)) = findRoots (a :: rest) := by
  intro same
  have none : Newton.landings Newton.tolerance (Polynomial.formal positiveQuartic) = [] := by
    rw [List.eq_nil_iff_forall_not_mem]
    intro z member
    have near := (one_le_eval_positiveQuartic z).trans_lt (Newton.eval_of_mem_landings member)
    rw [Newton.tolerance_eq] at near
    norm_num at near
  have some :
      Newton.landings (Newton.tolerance / 2⁻¹ ^ 60) (Polynomial.formal positiveQuartic) ≠ [] := by
    have origin : (0 : ℝ) ∈ Newton.seeds := by simp [Newton.seeds]
    refine Newton.landings_ne_nil origin ?_
    rw [eval_positiveQuartic, Newton.tolerance_eq]
    norm_num
  have found := same 1 (2⁻¹ ^ 60) [0, 0, 0, 1] one_ne_zero (by decide) (by positivity)
  rw [findRoots_newton_scaled (le_refl 4) (by positivity), findRoots_newton (le_refl 4)] at found
  have empty := congrArg Prod.snd (Except.ok.inj found)
  dsimp only at empty
  rw [← positiveQuartic, none] at empty
  exact some (List.map_eq_nil_iff.mp empty)

end Quartic

end RootFinder
