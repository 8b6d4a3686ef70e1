import Mathlib
import RootFinder.Proofs.Real.Cardano
import RootFinder.Proofs.Strategy.Count
import RootFinder.Solution

/-! Over exact numbers the closed forms find all roots of a polynomial, each as often as it is one,
whatever branch they take. Only a cubic whose discriminant is small, but not zero, is left out. -/
namespace RootFinder

open Scalar Approximate Elementary

namespace ClosedForm

variable {a b c d : ℝ}

theorem linear_complete (leading : a ≠ 0) (b : ℝ) :
    ∃ roots, linear [a, b] = .ok roots ∧ Complete a [b] (roots.map Root.toComplex) := by
  have value : (a : ℂ) * (-b / a : ℝ) = -b := by
    have real : a * (-b / a) = -b := mul_div_cancel₀ (-b) leading
    exact_mod_cast real
  refine ⟨[.real (-b / a)], ?_, .linear value⟩
  simp [linear, leading]

theorem quadraticRoots_eq (leading : a ≠ 0) (b c : ℝ) : quadraticRoots a b c =
    let D := b * b - 4 * a * c
    if 0 < D then .ok [.real ((-b + √D) / (2 * a)), .real ((-b - √D) / (2 * a))]
    else if D = 0 then .ok [.real (-b / (2 * a)), .real (-b / (2 * a))]
    else .ok [.complex (-b / (2 * a)) (√(-D) / (2 * a)),
      .complex (-b / (2 * a)) (-(√(-D) / (2 * a)))] := by
  have twice : 2 * a ≠ 0 := by simp [leading]
  simp only [quadraticRoots, Reals.whole_eq, Nat.cast_ofNat, Nat.cast_zero, Reals.less_iff,
    Reals.isZero_iff, Reals.quotient_eq twice, ok_bind]
  generalize b * b - 4 * a * c = D
  split_ifs with positive zero
  · rw [Reals.squareRoot_eq positive.le]
    rfl
  · rfl
  · rw [Reals.squareRoot_eq (neg_nonneg.mpr (not_lt.mp positive))]
    rfl

/-- Two real roots, the same one twice, or a pair of conjugates. -/
theorem quadraticRoots_complete (leading : a ≠ 0) (b c : ℝ) :
    ∃ roots, quadraticRoots a b c = .ok roots ∧ Complete a [b, c] (roots.map Root.toComplex) := by
  have definition := quadraticRoots_eq leading b c
  obtain ⟨D, same⟩ : ∃ D, D = b * b - 4 * a * c := ⟨_, rfl⟩
  rw [← same] at definition
  dsimp only at definition
  split_ifs at definition with positive zero
  · have square := Real.sq_sqrt positive.le
    generalize √D = s at square definition
    have sum : a * ((-b + s) / (2 * a) + (-b - s) / (2 * a)) = -b := by
      field_simp
      ring
    have product : a * ((-b + s) / (2 * a) * ((-b - s) / (2 * a))) = c := by
      field_simp
      linear_combination -square - same
    exact ⟨_, definition, .quadratic_real sum product⟩
  · have sum : a * (-b / (2 * a) + -b / (2 * a)) = -b := by
      field_simp
      ring
    have product : a * (-b / (2 * a) * (-b / (2 * a))) = c := by
      field_simp
      linear_combination zero - same
    exact ⟨_, definition, .quadratic_real sum product⟩
  · have square := Real.sq_sqrt (neg_nonneg.mpr (not_lt.mp positive))
    generalize √(-D) = s at square definition
    have sum : a * (-b / (2 * a) + -b / (2 * a)) = -b := by
      field_simp
      ring
    have norm : a * ((-b / (2 * a)) ^ 2 + (s / (2 * a)) ^ 2) = c := by
      field_simp
      linear_combination square - same
    exact ⟨_, definition, .quadratic_conjugates sum norm⟩

/-- A discriminant that is small counts as zero, so it has to be zero. -/
theorem cardano_complete (leading : a ≠ 0) (clear : discriminant a b c d = 0 ∨
      smallDiscriminant ≤ |discriminant a b c d|) :
    ∃ roots, cardano a b c d = .ok roots ∧ Complete a [b, c, d] (roots.map Root.toComplex) := by
  obtain ⟨t, run, depresses, same⟩ := depress_ok leading b c d
  rw [← same] at clear
  suffices solved : Solved t (cardano a b c d) by
    obtain ⟨roots, x, y, z, ok, values, solves⟩ := solved
    exact ⟨roots, ok, values ▸ depresses.complete solves⟩
  have positive : (0 : ℝ) < smallDiscriminant := by
    rw [Reals.small_eq]
    norm_num
  rw [cardano, run, ok_bind]
  simp only [Reals.less_iff, Reals.magnitude_eq, Reals.whole_eq, Nat.cast_zero]
  split_ifs with small above
  · have none : t.discriminant = 0 := clear.resolve_right (not_le.mpr small)
    exact repeatedRoots_solves (depresses.discriminant ▸ none)
  · exact singleRoot_solves depresses.discriminant above
  · have nonzero : t.discriminant ≠ 0 := by
      intro none
      rw [none, abs_zero] at small
      exact small positive
    exact tripleRoots_solves depresses.discriminant
      (lt_of_le_of_ne (not_lt.mp above) nonzero)

theorem cubicRoots_complete (leading : a ≠ 0) (clear : d ≠ 0 → discriminant a b c d = 0 ∨
      smallDiscriminant ≤ |discriminant a b c d|) :
    ∃ roots, cubicRoots a b c d = .ok roots ∧ Complete a [b, c, d] (roots.map Root.toComplex) := by
  simp only [cubicRoots, Bool.and_eq_true, Reals.same_iff, Reals.isZero_iff, Reals.whole_eq]
  split_ifs with plain zero
  · obtain ⟨⟨⟨rfl, rfl⟩, rfl⟩, rfl⟩ := plain
    refine ⟨_, rfl, .cubic ?_ ?_ ?_⟩
    all_goals simp [Root.toComplex]
  · subst d
    obtain ⟨roots, run, complete⟩ := quadraticRoots_complete leading b c
    refine ⟨.real 0 :: roots, ?_, complete.zero_cons⟩
    rw [run]
    simp [Except.map]
  · exact cardano_complete leading (clear zero)

end ClosedForm

/-- Over exact numbers, a vector of at most four coefficients with a leading one is solved, and the
roots found are all the roots; unless the discriminant is small without being zero. -/
theorem findRoots_complete {a : ℝ} {rest : List ℝ} (leading : a ≠ 0) (long : 1 ≤ rest.length)
    (short : rest.length ≤ 3)
    (clear : ∀ b c d, rest = [b, c, d] → d ≠ 0 → ClosedForm.discriminant a b c d = 0 ∨
      ClosedForm.smallDiscriminant ≤ |ClosedForm.discriminant a b c d|) :
    ∃ strategy roots, findRoots (a :: rest) = .ok (strategy, roots) ∧
      roots.length = rest.length ∧ Complete a rest (roots.map Root.toComplex) := by
  suffices found : ∃ strategy roots, strategy ≠ .newton ∧
      Strategy.select? (a :: rest).length = some strategy ∧
      strategy.run (a :: rest) = .ok roots ∧ Complete a rest (roots.map Root.toComplex) by
    obtain ⟨strategy, roots, closed, select, run, complete⟩ := found
    refine ⟨strategy, roots, ?_, Nat.succ.inj (Strategy.run_count closed run), complete⟩
    rw [findRoots, select]
    dsimp only
    rw [run]
  match rest with
  | [b] =>
    obtain ⟨roots, run, complete⟩ := ClosedForm.linear_complete leading b
    exact ⟨.linear, roots, nofun, rfl, run, complete⟩
  | [b, c] =>
    obtain ⟨roots, run, complete⟩ := ClosedForm.quadraticRoots_complete leading b c
    exact ⟨.quadratic, roots, nofun, rfl, run, complete⟩
  | [b, c, d] =>
    obtain ⟨roots, run, complete⟩ := ClosedForm.cubicRoots_complete leading (clear b c d rfl)
    exact ⟨.cubic, roots, nofun, rfl, run, complete⟩

theorem findRoots_complete_three : ∃ strategy roots,
    findRoots [1, -6, 11, -6] = .ok (strategy, roots) ∧ roots.length = 3 ∧
      Complete 1 [-6, 11, -6] (roots.map Root.toComplex) := by
  refine findRoots_complete one_ne_zero (by decide) (by decide) ?_
  rintro b c d ⟨⟩ -
  right
  rw [Reals.small_eq]
  norm_num [ClosedForm.discriminant]

end RootFinder
