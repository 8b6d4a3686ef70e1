import Mathlib
import RootFinder.Newton
import RootFinder.Proofs.Polynomial.Evaluation
import RootFinder.Proofs.Real.Arithmetic

/-! The search over exact numbers, as a function of the polynomial and of what counts as nearly
zero. Only that bound is measured on the scale of the polynomial: the points that a seed goes
through are those of Newton's iteration, which no factor changes. -/
namespace RootFinder.Newton

open Approximate

/-- The first of the next `fuel` points of Newton's iteration at which the polynomial is nearer to
zero than `ε`. None is found where the slope vanishes or a step is too short to go on. -/
noncomputable def landing (ε : ℝ) (p : Polynomial ℝ) : Nat → ℝ → Option ℝ
  | 0, _ => none
  | fuel + 1, x =>
    if |p.eval x| < ε then some x
    else if p.derivative.eval x = 0 then none
    else if |p.newtonMap x - x| < tolerance then none
    else landing ε p fuel (p.newtonMap x)

noncomputable def keep (kept : List ℝ) (x : ℝ) : List ℝ :=
  if isNew kept x then kept ++ [x] else kept

/-- The points that the seeds land on, without those near to an earlier one. -/
noncomputable def landings (ε : ℝ) (p : Polynomial ℝ) : List ℝ :=
  (seeds.filterMap (landing ε p patience)).foldl keep []

theorem tolerance_eq : (tolerance : ℝ) = 1e-10 := Reals.small_eq

variable {ε : ℝ} {p : Polynomial ℝ}

section Exact

theorem newtonMap_eq (p : Polynomial ℝ) (x : ℝ) :
    p.newtonMap x = x - p.eval x / p.derivative.eval x := by
  rw [Polynomial.newtonMap_apply, Ring.inverse_eq_inv', div_eq_inv_mul]
  rfl

theorem approach_exact (cs : List ℝ) (fuel : Nat) (x : ℝ) :
    approach cs fuel x = .ok (landing tolerance (Polynomial.formal cs) fuel x) := by
  induction fuel generalizing x with
  | zero => rfl
  | succ fuel ih =>
    -- whole numbers and powers of reals are the exact ones by definition
    have values : Polynomial.evaluate cs x = _ := Polynomial.evaluate_exact cs x
    rw [approach, values, landing]
    simp only [Reals.less_iff, Reals.magnitude_eq, Reals.isZero_iff]
    by_cases near : |(Polynomial.formal cs).eval x| < tolerance
    · rw [if_pos near, if_pos near]
    · rw [if_neg near, if_neg near]
      by_cases flat : (Polynomial.formal cs).derivative.eval x = 0
      · rw [if_pos flat, if_pos flat]
      · rw [if_neg flat, if_neg flat, Reals.quotient_eq flat, newtonMap_eq]
        dsimp only
        rw [ih]
        exact (apply_ite Except.ok _ _ _).symm

theorem collect_exact (cs points known : List ℝ) : collect cs points known =
    .ok ((points.filterMap (landing tolerance (Polynomial.formal cs) patience)).foldl keep
      known) := by
  induction points generalizing known with
  | nil => rfl
  | cons seed rest ih =>
    rw [collect, approach_exact, List.filterMap_cons]
    cases landing tolerance (Polynomial.formal cs) patience seed with
    | none => exact ih known
    | some x => exact ih (keep known x)

/-- The search over exact numbers finds the landings of the polynomial of the vector. -/
theorem search_exact (cs : List ℝ) :
    search cs = .ok ((landings tolerance (Polynomial.formal cs)).map .real) := by
  rw [search, collect_exact]
  rfl

end Exact

section Landings

theorem eval_landing {fuel : Nat} {x z : ℝ} (lands : landing ε p fuel x = some z) :
    |p.eval z| < ε := by
  induction fuel generalizing x with
  | zero => cases lands
  | succ fuel ih =>
    rw [landing] at lands
    split_ifs at lands with near
    · cases lands
      exact near
    · exact ih lands

theorem mem_foldl_keep {points known : List ℝ} {z : ℝ} (member : z ∈ points.foldl keep known) :
    z ∈ known ∨ z ∈ points := by
  induction points generalizing known with
  | nil => exact .inl member
  | cons x rest ih =>
    rcases ih member with before | later
    · unfold keep at before
      split at before
      · rcases List.mem_append.mp before with old | new
        · exact .inl old
        · obtain rfl := List.mem_singleton.mp new
          exact .inr List.mem_cons_self
      · exact .inl before
    · exact .inr (List.mem_cons_of_mem x later)

/-- At a landing the polynomial is nearly zero. -/
theorem eval_of_mem_landings {z : ℝ} (member : z ∈ landings ε p) : |p.eval z| < ε := by
  rcases mem_foldl_keep member with none | landed
  · cases none
  · obtain ⟨seed, -, lands⟩ := List.mem_filterMap.mp landed
    exact eval_landing lands

theorem foldl_keep_ne_nil {points known : List ℝ} (some : known ≠ [] ∨ points ≠ []) :
    points.foldl keep known ≠ [] := by
  induction points generalizing known with
  | nil => exact some.resolve_right (not_not_intro rfl)
  | cons x rest ih =>
    apply ih (.inl _)
    unfold keep
    split
    · simp
    · rename_i old
      rintro rfl
      exact old rfl

/-- A seed at which the polynomial is nearly zero is a landing, so that there is one. -/
theorem landings_ne_nil {seed : ℝ} (member : seed ∈ seeds) (near : |p.eval seed| < ε) :
    landings ε p ≠ [] := by
  refine foldl_keep_ne_nil (.inr fun none => ?_)
  have lands : landing ε p patience seed = some seed := if_pos near
  rw [List.filterMap_eq_nil_iff.mp none seed member] at lands
  cases lands

end Landings

section Scale

variable {k : ℝ}

/-- A factor does not change where a tangent meets zero. -/
theorem newtonMap_scaled (nonzero : k ≠ 0) (p : Polynomial ℝ) (x : ℝ) :
    (Polynomial.C k * p).newtonMap x = p.newtonMap x := by
  rw [newtonMap_eq, newtonMap_eq, Polynomial.derivative_C_mul, Polynomial.eval_C_mul,
    Polynomial.eval_C_mul, mul_div_mul_left _ _ nonzero]

/-- Landing on a multiple of a polynomial is landing on the polynomial, with the bound divided by
the factor. -/
theorem landing_scaled (positive : 0 < k) (fuel : Nat) (x : ℝ) :
    landing ε (.C k * p) fuel x = landing (ε / k) p fuel x := by
  induction fuel generalizing x with
  | zero => rfl
  | succ fuel ih =>
    have near : |(Polynomial.C k * p).eval x| < ε ↔ |p.eval x| < ε / k := by
      rw [Polynomial.eval_C_mul, abs_mul, abs_of_pos positive, lt_div_iff₀ positive, mul_comm]
    have flat : (Polynomial.C k * p).derivative.eval x = 0 ↔ p.derivative.eval x = 0 := by
      rw [Polynomial.derivative_C_mul, Polynomial.eval_C_mul, mul_eq_zero,
        or_iff_right positive.ne']
    rw [landing, landing, newtonMap_scaled positive.ne', ih]
    simp only [near, flat]

theorem landings_scaled (positive : 0 < k) (ε : ℝ) (p : Polynomial ℝ) :
    landings ε (.C k * p) = landings (ε / k) p := by
  unfold landings
  simp only [landing_scaled positive]

/-- Two bounds between which no point of the iteration has its value are one. -/
theorem landing_congr {δ : ℝ} {fuel : Nat} {x : ℝ}
    (alike : ∀ n < fuel, |p.eval (p.newtonMap^[n] x)| < ε ↔ |p.eval (p.newtonMap^[n] x)| < δ) :
    landing ε p fuel x = landing δ p fuel x := by
  induction fuel generalizing x with
  | zero => rfl
  | succ fuel ih =>
    have first : |p.eval x| < ε ↔ |p.eval x| < δ := alike 0 (Nat.succ_pos fuel)
    have rest := ih fun n bound => alike (n + 1) (Nat.succ_lt_succ bound)
    rw [landing, landing, rest]
    simp only [first]

theorem landings_congr {δ : ℝ} (alike : ∀ seed ∈ seeds, ∀ n < patience,
      |p.eval (p.newtonMap^[n] seed)| < ε ↔ |p.eval (p.newtonMap^[n] seed)| < δ) :
    landings ε p = landings δ p := by
  unfold landings
  rw [List.filterMap_congr fun seed member => landing_congr (alike seed member)]

end Scale

end RootFinder.Newton
