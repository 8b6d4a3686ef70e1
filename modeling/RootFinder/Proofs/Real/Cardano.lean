import Mathlib
import RootFinder.Proofs.Real.Arithmetic
import RootFinder.Proofs.Real.Factors
import RootFinder.Result

/-! Cardano's formulas over exact numbers. Whatever the sign of the discriminant, the three roots
of the depressed cubic have the sum, the products in pairs and the product that its coefficients
say. -/
namespace RootFinder.ClosedForm

open Scalar Approximate Elementary

/-- The discriminant of the depressed cubic, by the coefficients of the cubic itself. -/
noncomputable def discriminant (a b c d : ℝ) : ℝ :=
  let p := (3 * a * c - b ^ 2) / (3 * a ^ 2)
  let q := (2 * b ^ 3 - 9 * a * b * c + 27 * a ^ 2 * d) / (27 * a ^ 3)
  q ^ 2 / 4 + p ^ 3 / 27

/-- The cubic `t ^ 3 + p * t + q` is the given one after the shift, up to its leading
coefficient. -/
structure Depresses (t : Depressed ℝ) (a b c d : ℝ) : Prop where
  square : b = 3 * a * t.shift
  linear : c = a * (t.p + 3 * t.shift ^ 2)
  constant : d = a * (t.q + t.p * t.shift + t.shift ^ 3)
  discriminant : t.discriminant = t.q ^ 2 / 4 + t.p ^ 3 / 27

theorem depress_ok {a : ℝ} (leading : a ≠ 0) (b c d : ℝ) : ∃ t, depress a b c d = .ok t ∧
    Depresses t a b c d ∧ t.discriminant = discriminant a b c d := by
  have nonzero : a * a ≠ 0 ∧ a ^ 3 ≠ 0 := by simp [leading]
  simp only [depress, Reals.power_eq, Reals.whole_eq, Nat.cast_ofNat, Reals.quotient_eq, ok_bind,
    ne_eq, mul_eq_zero, OfNat.ofNat_ne_zero, leading, or_self, not_false_eq_true, pow_eq_zero_iff]
  refine ⟨_, rfl, ⟨?_, ?_, ?_, ?_⟩, ?_⟩
  · field_simp
  · field_simp
    ring
  · field_simp
    ring
  · ring
  · simp only [discriminant]
    field_simp

/-- Three numbers whose sum, products in pairs and product are those that the coefficients of the
depressed cubic say. -/
structure Solves (t : Depressed ℝ) (x y z : ℂ) : Prop where
  sum : x + y + z = 0
  pairs : x * y + x * z + y * z = t.p
  product : x * y * z = -t.q

variable {t : Depressed ℝ}

/-- Shifted back, they are the roots of the cubic. -/
theorem Depresses.complete {a b c d : ℝ} (depresses : Depresses t a b c d) {x y z : ℂ}
    (solves : Solves t x y z) :
    Complete a [b, c, d] [x - t.shift, y - t.shift, z - t.shift] := by
  have square : (b : ℂ) = 3 * a * t.shift := by exact_mod_cast depresses.square
  have linear : (c : ℂ) = a * (t.p + 3 * t.shift ^ 2) := by exact_mod_cast depresses.linear
  have constant : (d : ℂ) = a * (t.q + t.p * t.shift + t.shift ^ 3) := by
    exact_mod_cast depresses.constant
  obtain ⟨sum, pairs, product⟩ := solves
  refine .cubic ?_ ?_ ?_
  · rw [square]
    linear_combination (a : ℂ) * sum
  · rw [linear]
    linear_combination (a : ℂ) * pairs - 2 * a * t.shift * sum
  · rw [constant]
    linear_combination (a : ℂ) * product - a * t.shift * pairs + a * t.shift ^ 2 * sum

/-- Three roots have been found that solve the depressed cubic once they are shifted. -/
def Solved (t : Depressed ℝ) (found : Except Fault (List (Root ℝ))) : Prop :=
  ∃ (roots : List (Root ℝ)) (x y z : ℂ), found = .ok roots ∧
    roots.map Root.toComplex = [x - t.shift, y - t.shift, z - t.shift] ∧ Solves t x y z

section Repeated

theorem repeatedRoots_eq (t : Depressed ℝ) : repeatedRoots t =
    let u := cubeRoot (-t.q / 2)
    .ok [.real (2 * u - t.shift), .real (-u - t.shift), .real (-u - t.shift)] := by
  simp [repeatedRoots]

/-- Without a discriminant, the square of the cube root is a third of the negative linear term. -/
theorem repeatedRoots_solves (none : t.q ^ 2 / 4 + t.p ^ 3 / 27 = 0) :
    Solved t (repeatedRoots t) := by
  have definition := repeatedRoots_eq t
  have cube := Reals.cubeRoot_cubed (-t.q / 2)
  generalize cubeRoot (-t.q / 2) = u at definition cube
  have square : -3 * u ^ 2 = t.p := by
    have cubes : (u ^ 2) ^ 3 = (-t.p / 3) ^ 3 := by
      linear_combination (u ^ 3 - t.q / 2) * cube + none
    linear_combination -3 * Reals.cube_injective cubes
  refine ⟨_, 2 * u, -u, -u, definition, ?_, ?_, ?_, ?_⟩
  · simp [Root.toComplex]
  · ring
  · rw [← square]
    push_cast
    ring
  · have complexCube : (u : ℂ) ^ 3 = -t.q / 2 := by exact_mod_cast cube
    linear_combination 2 * complexCube

end Repeated

section Single

theorem singleRoot_eq {t : Depressed ℝ} (positive : 0 < t.discriminant) : singleRoot t =
    let u := cubeRoot (-t.q / 2 + √t.discriminant)
    let v := cubeRoot (-t.q / 2 - √t.discriminant)
    let re := -(u + v) / 2 - t.shift
    let im := (u - v) * √3 / 2
    .ok [.real (u + v - t.shift), .complex re im, .complex re (-im)] := by
  simp [singleRoot, ok_bind, positive.le]

/-- With a positive discriminant, the two cube roots have a third of the negative linear term as
their product. -/
theorem singleRoot_solves (discriminant : t.discriminant = t.q ^ 2 / 4 + t.p ^ 3 / 27)
    (positive : 0 < t.discriminant) :
    Solved t (singleRoot t) := by
  have definition := singleRoot_eq positive
  have squared : √t.discriminant ^ 2 = t.q ^ 2 / 4 + t.p ^ 3 / 27 := by
    rw [Real.sq_sqrt positive.le, discriminant]
  have cubeU := Reals.cubeRoot_cubed (-t.q / 2 + √t.discriminant)
  have cubeV := Reals.cubeRoot_cubed (-t.q / 2 - √t.discriminant)
  generalize cubeRoot (-t.q / 2 + √t.discriminant) = u at definition cubeU
  generalize cubeRoot (-t.q / 2 - √t.discriminant) = v at definition cubeV
  have product : -3 * (u * v) = t.p := by
    have cubes : (u * v) ^ 3 = (-t.p / 3) ^ 3 := by
      linear_combination v ^ 3 * cubeU + (-t.q / 2 + √t.discriminant) * cubeV - squared
    linear_combination -3 * Reals.cube_injective cubes
  have sumOfCubes : (u : ℂ) ^ 3 + v ^ 3 = -t.q := by
    have real : u ^ 3 + v ^ 3 = -t.q := by linear_combination cubeU + cubeV
    exact_mod_cast real
  have three : (√3 : ℂ) ^ 2 = 3 := by
    have real : (√3 : ℝ) ^ 2 = 3 := Real.sq_sqrt (by norm_num)
    exact_mod_cast real
  have half : ((u : ℂ) - v) ^ 2 * √3 ^ 2 * Complex.I ^ 2 = -3 * (u - v) ^ 2 := by
    rw [three, Complex.I_sq]
    ring
  refine ⟨_, u + v, -(u + v) / 2 + (u - v) * √3 / 2 * Complex.I,
    -(u + v) / 2 - (u - v) * √3 / 2 * Complex.I, definition, ?_, ?_, ?_, ?_⟩
  · simp [Root.toComplex]
    constructor <;> ring
  · ring
  · rw [← product]
    push_cast
    linear_combination -half / 4
  · linear_combination sumOfCubes - (u + v) * half / 4

end Single

section Triple

/-- The cosine of a third of an angle, after so many turns. -/
noncomputable def thirdCosine (φ : ℝ) (k : ℕ) : ℝ := Real.cos ((φ + (2 * k : ℕ) * Real.pi) / 3)

theorem thirdCosine_laws (φ : ℝ) :
    thirdCosine φ 0 + thirdCosine φ 1 + thirdCosine φ 2 = 0 ∧
      thirdCosine φ 0 * thirdCosine φ 1 + thirdCosine φ 0 * thirdCosine φ 2 +
        thirdCosine φ 1 * thirdCosine φ 2 = -3 / 4 ∧
      thirdCosine φ 0 * thirdCosine φ 1 * thirdCosine φ 2 = Real.cos φ / 4 := by
  have first : thirdCosine φ 0 = Real.cos (φ / 3) := by simp [thirdCosine]
  have second : thirdCosine φ 1 =
      -(Real.cos (φ / 3) * (1 / 2) + Real.sin (φ / 3) * (√3 / 2)) := by
    have angle : (φ + (2 * 1 : ℕ) * Real.pi) / 3 = φ / 3 - Real.pi / 3 + Real.pi := by
      push_cast
      ring
    rw [thirdCosine, angle, Real.cos_add_pi, Real.cos_sub, Real.cos_pi_div_three,
      Real.sin_pi_div_three]
  have last : thirdCosine φ 2 =
      -(Real.cos (φ / 3) * (1 / 2) - Real.sin (φ / 3) * (√3 / 2)) := by
    have angle : (φ + (2 * 2 : ℕ) * Real.pi) / 3 = φ / 3 + Real.pi / 3 + Real.pi := by
      push_cast
      ring
    rw [thirdCosine, angle, Real.cos_add_pi, Real.cos_add, Real.cos_pi_div_three,
      Real.sin_pi_div_three]
  have triple : Real.cos φ = 4 * Real.cos (φ / 3) ^ 3 - 3 * Real.cos (φ / 3) := by
    rw [← Real.cos_three_mul, mul_div_cancel₀ φ (by norm_num : (3 : ℝ) ≠ 0)]
  have unit := Real.sin_sq_add_cos_sq (φ / 3)
  have three : √(3 : ℝ) ^ 2 = 3 := Real.sq_sqrt (by norm_num)
  rw [first, second, last, triple]
  refine ⟨?_, ?_, ?_⟩
  · ring
  · linear_combination (-3 / 4) * unit - Real.sin (φ / 3) ^ 2 / 4 * three
  · linear_combination (-3 / 4) * Real.cos (φ / 3) * unit -
      Real.cos (φ / 3) * Real.sin (φ / 3) ^ 2 / 4 * three

theorem tripleRoots_eq (p : t.p ≤ 0) (positive : 0 < √(-t.p ^ 3 / 27))
    (low : -1 ≤ -t.q / (2 * √(-t.p ^ 3 / 27))) (high : -t.q / (2 * √(-t.p ^ 3 / 27)) ≤ 1) :
    tripleRoots t =
      let φ := Real.arccos (-t.q / (2 * √(-t.p ^ 3 / 27)))
      let r := 2 * √(-t.p / 3)
      .ok (([0, 1, 2].map (thirdCosine φ)).map fun x => .real (r * x - t.shift)) := by
  have cube : 0 ≤ -t.p ^ 3 / 27 := (Real.sqrt_pos.mp positive).le
  have third : 0 ≤ -t.p / 3 := by linarith
  have twice : 2 * √(-t.p ^ 3 / 27) ≠ 0 := by positivity
  simp only [tripleRoots, ok_bind, Reals.power_eq, Reals.whole_eq, Nat.cast_ofNat,
    Reals.quotient_eq, ne_eq, OfNat.ofNat_ne_zero, not_false_eq_true, Reals.squareRoot_eq cube,
    Reals.quotient_eq twice, Reals.arcCosine_eq low high, Reals.squareRoot_eq third]
  rfl

/-- With a negative discriminant, the linear term is negative and the angle has a cosine. -/
theorem tripleRoots_solves (discriminant : t.discriminant = t.q ^ 2 / 4 + t.p ^ 3 / 27)
    (negative : t.discriminant < 0) :
    Solved t (tripleRoots t) := by
  have p : t.p < 0 := by
    by_contra nonnegative
    have cube : 0 ≤ t.p ^ 3 := pow_nonneg (not_lt.mp nonnegative) 3
    have square := sq_nonneg t.q
    linarith
  have cube : 0 < -t.p ^ 3 / 27 := by
    have odd := Odd.pow_neg (by decide : Odd 3) p
    linarith
  have third : 0 ≤ -t.p / 3 := by linarith
  have positive : 0 < √(-t.p ^ 3 / 27) := Real.sqrt_pos.mpr cube
  have squared : √(-t.p ^ 3 / 27) ^ 2 = -t.p ^ 3 / 27 := Real.sq_sqrt cube.le
  have inside : |-t.q| ≤ 2 * √(-t.p ^ 3 / 27) := by
    refine abs_le_of_sq_le_sq ?_ (by positivity)
    linarith
  have low : -1 ≤ -t.q / (2 * √(-t.p ^ 3 / 27)) := by
    rw [le_div_iff₀ (by positivity)]
    linarith [neg_abs_le (-t.q)]
  have high : -t.q / (2 * √(-t.p ^ 3 / 27)) ≤ 1 := by
    rw [div_le_one (by positivity)]
    exact (le_abs_self _).trans inside
  have definition := tripleRoots_eq p.le positive low high
  have cosine := Real.cos_arccos low high
  have width := Real.sq_sqrt third
  have cubed : √(-t.p / 3) ^ 3 = √(-t.p ^ 3 / 27) := by
    refine (sq_eq_sq₀ (by positivity) positive.le).mp ?_
    rw [squared]
    linear_combination (√(-t.p / 3) ^ 4 + √(-t.p / 3) ^ 2 * (-t.p / 3) + (-t.p / 3) ^ 2) * width
  obtain ⟨sum, pairs, product⟩ :=
    thirdCosine_laws (Real.arccos (-t.q / (2 * √(-t.p ^ 3 / 27))))
  rw [cosine] at product
  simp only [List.map] at definition
  generalize thirdCosine _ 0 = x at definition sum pairs product
  generalize thirdCosine _ 1 = y at definition sum pairs product
  generalize thirdCosine _ 2 = z at definition sum pairs product
  generalize √(-t.p / 3) = w at definition width cubed
  generalize √(-t.p ^ 3 / 27) = s at positive cubed product
  refine ⟨_, 2 * w * x, 2 * w * y, 2 * w * z, definition, ?_, ?_, ?_, ?_⟩
  · simp [Root.toComplex]
  · have real : 2 * w * x + 2 * w * y + 2 * w * z = 0 := by linear_combination 2 * w * sum
    exact_mod_cast real
  · have real : 2 * w * x * (2 * w * y) + 2 * w * x * (2 * w * z) +
        2 * w * y * (2 * w * z) = t.p := by
      linear_combination 4 * w ^ 2 * pairs - 3 * width
    exact_mod_cast real
  · have real : 2 * w * x * (2 * w * y) * (2 * w * z) = -t.q := by
      have scaled : 8 * s * (-t.q / (2 * s) / 4) = -t.q := by
        field_simp
        ring
      linear_combination 8 * w ^ 3 * product + 8 * (-t.q / (2 * s) / 4) * cubed + scaled
    exact_mod_cast real

end Triple

end RootFinder.ClosedForm
