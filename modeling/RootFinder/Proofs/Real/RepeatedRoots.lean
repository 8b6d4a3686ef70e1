import Mathlib
import RootFinder.Proofs.Real.Completeness

/-! What it costs to take a small discriminant for zero. The roots returned for a cubic are those of
another one that has a repeated root, and the distance to its own roots grows with the sixth root of
the discriminant. -/
namespace RootFinder.ClosedForm

open Scalar Approximate Elementary

section Nearby

variable {p u : ℝ}

/-- How far the linear term is from that of the cubic with a root at `2 * u` and two at `-u`. -/
theorem linear_near {p' k : ℝ} (cubes : p ^ 3 - p' ^ 3 = 27 * k) :
    |p - p'| ^ 3 ≤ 108 * |k| := by
  have factor : (p - p') ^ 2 ≤ 4 * (p ^ 2 + p * p' + p' ^ 2) := by
    have square := sq_nonneg (p + p')
    linarith
  have nonnegative : 0 ≤ p ^ 2 + p * p' + p' ^ 2 := by
    have square := sq_nonneg (p - p')
    linarith
  calc |p - p'| ^ 3 = |p - p'| * (p - p') ^ 2 := by rw [← sq_abs]; ring
    _ ≤ |p - p'| * (4 * (p ^ 2 + p * p' + p' ^ 2)) :=
      mul_le_mul_of_nonneg_left factor (abs_nonneg _)
    _ = 4 * |(p - p') * (p ^ 2 + p * p' + p' ^ 2)| := by
      rw [abs_mul, abs_of_nonneg nonnegative]
      ring
    _ = 4 * |27 * k| := by
      rw [← cubes]
      congr 2
      ring
    _ = 108 * |k| := by
      rw [abs_mul, abs_of_pos (by norm_num)]
      ring

/-- For a positive cube root the cubic has a positive root. -/
theorem exists_pos_root (positive : 0 < u) (p : ℝ) :
    ∃ r, 0 < r ∧ r ^ 3 + p * r - 2 * u ^ 3 = 0 := by
  let f (x : ℝ) := x ^ 3 + p * x - 2 * u ^ 3
  have continuous : Continuous f := by
    fun_prop
  have cube : 0 < u ^ 3 := by positivity
  have low : f 0 ≤ 0 := by
    simp only [f]
    linarith
  have high : 0 ≤ f (2 * u + |p| + 1) := by
    have wide : 4 * u ^ 2 ≤ (2 * u + |p| + 1) ^ 2 + p := by
      have size := abs_nonneg p
      have least := neg_abs_le p
      nlinarith [mul_nonneg positive.le size]
    have far : 2 * u ≤ 2 * u + |p| + 1 := by
      have size := abs_nonneg p
      linarith
    have product := mul_le_mul far wide (by positivity) (by positivity)
    simp only [f]
    linarith
  obtain ⟨r, ⟨nonnegative, -⟩, root⟩ :=
    intermediate_value_Icc (by positivity : 0 ≤ 2 * u + |p| + 1) continuous.continuousOn
      ⟨low, high⟩
  refine ⟨r, lt_of_le_of_ne nonnegative ?_, root⟩
  rintro rfl
  simp only [f] at root
  linarith

/-- A real root near `2 * u`, while the other two are near to each other. -/
theorem exists_root_near (positive : 0 < u) (p : ℝ) :
    ∃ r, r ^ 3 + p * r - 2 * u ^ 3 = 0 ∧ (r - 2 * u) ^ 2 ≤ |p + 3 * u ^ 2| ∧
      |3 * r ^ 2 + 4 * p| ≤ 4 * |p + 3 * u ^ 2| := by
  obtain ⟨r, above, root⟩ := exists_pos_root positive p
  have square : 0 < (r + u) ^ 2 := by positivity
  have distance : (r - 2 * u) * (r + u) ^ 2 = -((p + 3 * u ^ 2) * r) := by
    linear_combination root
  have size := congrArg abs distance
  rw [abs_mul, abs_neg, abs_mul, abs_of_pos square, abs_of_pos above] at size
  refine ⟨r, root, ?_, ?_⟩
  · have short : r * |r - 2 * u| ≤ (r + u) ^ 2 := by
      have product := mul_pos above positive
      rw [← abs_of_pos above, ← abs_mul, abs_of_pos above, abs_le]
      constructor
      · linarith [sq_nonneg r, sq_nonneg u]
      · linarith [sq_nonneg u]
    refine le_of_mul_le_mul_right ?_ above
    calc (r - 2 * u) ^ 2 * r = |r - 2 * u| * (r * |r - 2 * u|) := by rw [← sq_abs]; ring
      _ ≤ |r - 2 * u| * (r + u) ^ 2 := mul_le_mul_of_nonneg_left short (abs_nonneg _)
      _ = |p + 3 * u ^ 2| * r := size
  · have scaled : (3 * r ^ 2 + 4 * p) * (r + u) ^ 2 =
        (p + 3 * u ^ 2) * ((r + u) ^ 2 + 3 * u ^ 2) := by
      linear_combination 3 * (r + 2 * u) * distance
    have part : u ^ 2 ≤ (r + u) ^ 2 := pow_le_pow_left₀ positive.le (by linarith) 2
    refine le_of_mul_le_mul_right ?_ square
    calc |3 * r ^ 2 + 4 * p| * (r + u) ^ 2 = |(3 * r ^ 2 + 4 * p) * (r + u) ^ 2| := by
          rw [abs_mul, abs_of_pos square]
      _ = |p + 3 * u ^ 2| * ((r + u) ^ 2 + 3 * u ^ 2) := by
          rw [scaled, abs_mul, abs_of_pos (by positivity : 0 < (r + u) ^ 2 + 3 * u ^ 2)]
      _ ≤ |p + 3 * u ^ 2| * (4 * (r + u) ^ 2) :=
          mul_le_mul_of_nonneg_left (by linarith) (abs_nonneg _)
      _ = 4 * |p + 3 * u ^ 2| * (r + u) ^ 2 := by ring

/-- The same without a sign: the cubic for `-u` has the negative roots. -/
theorem exists_root (u p : ℝ) :
    ∃ r, r ^ 3 + p * r - 2 * u ^ 3 = 0 ∧ (r - 2 * u) ^ 2 ≤ |p + 3 * u ^ 2| ∧
      |3 * r ^ 2 + 4 * p| ≤ 4 * |p + 3 * u ^ 2| := by
  rcases lt_trichotomy u 0 with negative | rfl | positive
  · obtain ⟨r, root, near, width⟩ := exists_root_near (neg_pos.mpr negative) p
    rw [neg_sq] at near width
    refine ⟨-r, by linear_combination -root, ?_, ?_⟩
    · have same : (-r - 2 * u) ^ 2 = (r - 2 * -u) ^ 2 := by ring
      rwa [same]
    · rwa [neg_sq]
  · refine ⟨0, by ring, by simp, ?_⟩
    simp [abs_mul]
  · exact exists_root_near positive p

variable {t : Depressed ℝ}

/-- The roots of the depressed cubic are near: one of them by the lemma above, and the two others to
both sides of its half. -/
theorem exists_solution (cube : u ^ 3 = -t.q / 2) :
    ∃ x y z, Solves t x y z ∧ ‖(2 * u : ℂ) - x‖ ≤ 3 / 2 * √|t.p + 3 * u ^ 2| ∧
      ‖-(u : ℂ) - y‖ ≤ 3 / 2 * √|t.p + 3 * u ^ 2| ∧
      ‖-(u : ℂ) - z‖ ≤ 3 / 2 * √|t.p + 3 * u ^ 2| := by
  obtain ⟨r, root, near, width⟩ := exists_root u t.p
  obtain ⟨w, square⟩ :=
    IsAlgClosed.exists_pow_nat_eq (-(3 * r ^ 2 + 4 * t.p : ℝ) : ℂ) two_pos
  have apart : ‖w‖ ≤ 2 * √|t.p + 3 * u ^ 2| := by
    refine (sq_le_sq₀ (norm_nonneg w) (by positivity)).mp ?_
    rw [← norm_pow, square, norm_neg, Complex.norm_real, mul_pow, Real.sq_sqrt (abs_nonneg _)]
    norm_num
    exact width
  have offset : ‖((r - 2 * u : ℝ) : ℂ)‖ ≤ √|t.p + 3 * u ^ 2| := by
    rw [Complex.norm_real]
    exact Real.abs_le_sqrt near
  have half (v : ℂ) (same : ‖v‖ = ‖w‖) :
      ‖(((r - 2 * u : ℝ) : ℂ) + v) / 2‖ ≤ 3 / 2 * √|t.p + 3 * u ^ 2| := by
    have sum := norm_add_le ((r - 2 * u : ℝ) : ℂ) v
    rw [norm_div, Complex.norm_two]
    linarith
  have complexRoot : (r : ℂ) ^ 3 + t.p * r = -t.q := by
    have real : r ^ 3 + t.p * r = -t.q := by linear_combination root + 2 * cube
    exact_mod_cast real
  push_cast at square
  refine ⟨r, (-r + w) / 2, (-r - w) / 2, ⟨?_, ?_, ?_⟩, ?_, ?_, ?_⟩
  · ring
  · linear_combination -square / 4
  · linear_combination complexRoot - r * square / 4
  · rw [norm_sub_rev, ← Complex.ofReal_ofNat, ← Complex.ofReal_mul, ← Complex.ofReal_sub]
    linarith [Real.sqrt_nonneg |t.p + 3 * u ^ 2|]
  · have difference : -(u : ℂ) - (-r + w) / 2 = (((r - 2 * u : ℝ) : ℂ) + -w) / 2 := by
      push_cast
      ring
    rw [difference]
    exact half (-w) (norm_neg w)
  · have difference : -(u : ℂ) - (-r - w) / 2 = (((r - 2 * u : ℝ) : ℂ) + w) / 2 := by
      push_cast
      ring
    rw [difference]
    exact half w rfl

theorem sqrt_le_sixthRoot {x e : ℝ} (cube : x ^ 3 ≤ 108 * e) (nonnegative : 0 ≤ x)
    (error : 0 ≤ e) : 3 / 2 * √x ≤ 4 * e ^ (1 / 6 : ℝ) := by
  have sixth : (e ^ (1 / 6 : ℝ)) ^ 6 = e := by
    rw [← Real.rpow_natCast, ← Real.rpow_mul error]
    norm_num
  have above : 0 ≤ e ^ (1 / 6 : ℝ) := Real.rpow_nonneg error _
  generalize e ^ (1 / 6 : ℝ) = h at sixth above
  have small : x ≤ 5 * h ^ 2 := by
    refine (pow_le_pow_iff_left₀ nonnegative (by positivity) three_ne_zero).mp ?_
    have power : (5 * h ^ 2) ^ 3 = 125 * e := by
      rw [← sixth]
      ring
    linarith
  have root : √x ≤ 8 / 3 * h := by
    refine Real.sqrt_le_iff.mpr ⟨by positivity, ?_⟩
    linarith [sq_nonneg h, (by ring : (8 / 3 * h) ^ 2 = 64 / 9 * h ^ 2)]
  linarith

end Nearby

section Returned

variable {a b c d : ℝ}

/-- What is returned for a small discriminant. -/
theorem findRoots_repeated (leading : a ≠ 0) (constant : d ≠ 0)
    (small : |discriminant a b c d| < smallDiscriminant) : ∃ t u, Depresses t a b c d ∧
      t.discriminant = discriminant a b c d ∧ u ^ 3 = -t.q / 2 ∧
      findRoots [a, b, c, d] = .ok (.cubic,
        [.real (2 * u - t.shift), .real (-u - t.shift), .real (-u - t.shift)]) := by
  obtain ⟨t, run, depresses, same⟩ := depress_ok leading b c d
  refine ⟨t, cubeRoot (-t.q / 2), depresses, same, Reals.cubeRoot_cubed _, ?_⟩
  rw [← same] at small
  have branch : cubicRoots a b c d = repeatedRoots t := by
    simp only [cubicRoots, Bool.and_eq_true, Reals.isZero_iff, constant, and_false, if_false]
    rw [cardano, run, ok_bind]
    exact if_pos (Reals.less_iff.mpr small)
  have strategy : Strategy.select? [a, b, c, d].length = some .cubic := rfl
  have found : Strategy.cubic.run [a, b, c, d] = repeatedRoots t := branch
  rw [findRoots, strategy]
  dsimp only
  rw [found, repeatedRoots_eq]

/-- A cubic with a small discriminant is solved by three numbers, each of them near to another one
of its roots. -/
theorem findRoots_near (leading : a ≠ 0) (constant : d ≠ 0)
    (small : |discriminant a b c d| < smallDiscriminant) :
    ∃ found zs, findRoots [a, b, c, d] = .ok (.cubic, found) ∧ Complete a [b, c, d] zs ∧
      List.Forall₂ (fun root z => ‖Root.toComplex root - z‖ ≤
        4 * |discriminant a b c d| ^ (1 / 6 : ℝ)) found zs := by
  obtain ⟨t, u, depresses, same, cube, found⟩ := findRoots_repeated leading constant small
  have cubes : t.p ^ 3 - (-(3 * u ^ 2)) ^ 3 = 27 * discriminant a b c d := by
    rw [← same, depresses.discriminant]
    linear_combination 27 * (u ^ 3 - t.q / 2) * cube
  have distance := linear_near cubes
  rw [sub_neg_eq_add] at distance
  have bound := sqrt_le_sixthRoot distance (abs_nonneg _) (abs_nonneg _)
  obtain ⟨x, y, z, solves, first, second, last⟩ := exists_solution cube
  refine ⟨_, _, found, depresses.complete solves, ?_⟩
  have shifted (v w : ℂ) : v - t.shift - (w - t.shift) = v - w := sub_sub_sub_cancel_right _ _ _
  simp only [List.forall₂_cons, List.Forall₂.nil, and_true, Root.toComplex, Complex.ofReal_sub,
    Complex.ofReal_mul, Complex.ofReal_neg, Complex.ofReal_ofNat, shifted]
  exact ⟨first.trans bound, second.trans bound, last.trans bound⟩

/-- A double root is found without an error. -/
theorem findRoots_near_double : ∃ found zs, findRoots [1, 0, -3, 2] = .ok (.cubic, found) ∧
    Complete 1 [0, -3, 2] zs ∧ List.Forall₂ (fun root z => ‖Root.toComplex root - z‖ ≤
      4 * |discriminant 1 0 (-3) 2| ^ (1 / 6 : ℝ)) found zs := by
  refine findRoots_near one_ne_zero two_ne_zero ?_
  rw [Reals.small_eq]
  norm_num [discriminant]

/-- The sixth root of a small discriminant may be much more than six places: the roots of
`x ^ 3 + 1 / 100000` are smaller by a third than the greatest number returned. -/
theorem not_findRoots_precise : ¬ ∀ a b c d : ℝ, a ≠ 0 → d ≠ 0 →
    |discriminant a b c d| < smallDiscriminant →
    ∃ found zs, findRoots [a, b, c, d] = .ok (.cubic, found) ∧ Complete a [b, c, d] zs ∧
      List.Forall₂ (fun root z => ‖Root.toComplex root - z‖ ≤ 1e-6) found zs := by
  intro precise
  have nonzero : (1e-5 : ℝ) ≠ 0 := by norm_num
  have small : |discriminant 1 0 0 1e-5| < smallDiscriminant := by
    rw [Reals.small_eq]
    norm_num [discriminant]
  obtain ⟨found, zs, run, complete, near⟩ := precise 1 0 0 1e-5 one_ne_zero nonzero small
  obtain ⟨t, u, depresses, -, cube, same⟩ := findRoots_repeated one_ne_zero nonzero small
  rw [same] at run
  cases run
  cases near with
  | @cons _ x _ zs first rest =>
    have unshifted : t.shift = 0 := by linarith [depresses.square]
    have constant := depresses.constant
    rw [unshifted] at constant first
    have root : ‖x‖ ^ 3 = 1e-5 := by
      have value : 0 = x ^ 3 + 1e-5 := by
        simpa [Polynomial.formal] using congrArg (Polynomial.eval x) complete
      have power : x ^ 3 = ((-1e-5 : ℝ) : ℂ) := by
        push_cast
        linear_combination -value
      rw [← norm_pow, power, Complex.norm_real]
      norm_num
    have returned : |2 * u| ^ 3 = 4e-5 := by
      have power : (2 * u) ^ 3 = -4e-5 := by linarith
      rw [← abs_pow, power]
      norm_num
    have bound : |2 * u| ≤ ‖x‖ + 1e-6 := by
      have real : ‖((2 * u - 0 : ℝ) : ℂ)‖ = |2 * u| := by
        rw [sub_zero, Complex.norm_real, Real.norm_eq_abs]
      rw [← real]
      exact (norm_le_norm_add_norm_sub' _ x).trans (add_le_add_right first _)
    have short : ‖x‖ ≤ 3e-2 := by
      refine (pow_le_pow_iff_left₀ (norm_nonneg x) (by norm_num) three_ne_zero).mp ?_
      rw [root]
      norm_num
    have cubes := pow_le_pow_left₀ (abs_nonneg (2 * u)) (bound.trans (add_le_add_left short _)) 3
    rw [returned] at cubes
    norm_num at cubes

end Returned

end RootFinder.ClosedForm
