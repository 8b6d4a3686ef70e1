import Mathlib
import RootFinder.Proofs.Binary64.Finite
import RootFinder.Proofs.Newton.Collect

/-! The orbit of a seed. Each step goes to where the tangent vanishes; the orbit ends at the first
point at which the polynomial is nearly zero, and is given up where there is no next point or the
next one is too near. The search follows it for a hundred points. -/
namespace RootFinder.Newton

open Binary64 (isZero isFinite)
open RootFinder.Polynomial (accumulate evaluate)

variable {c : List Float} {x y z : Float}

def Small (c : List Float) (x : Float) : Prop :=
  ∃ value derivative, evaluate c x = .ok (value, derivative) ∧ value.abs < tolerance

instance (c : List Float) (x : Float) : Decidable (Small c x) :=
  match found : evaluate c x with
  | .ok (value, derivative) =>
    decidable_of_iff (value.abs < tolerance) ⟨fun near => ⟨value, derivative, found, near⟩, by
      rintro ⟨_, _, same, near⟩
      cases found.symm.trans same
      exact near⟩
  | .error _ => .isFalse (by
      rintro ⟨_, _, same, -⟩
      cases found.symm.trans same)

/-- From `x`, where the polynomial is not nearly zero, the method goes on to `y`: the slope at `x`
is not zero, and the step is not too short. -/
def Steps (c : List Float) (x y : Float) : Prop :=
  ∃ value derivative, evaluate c x = .ok (value, derivative) ∧ ¬ value.abs < tolerance ∧
    isZero derivative = false ∧ y = x - value / derivative ∧ ¬ (y - x).abs < tolerance

inductive Reaches (c : List Float) : Nat → Float → Float → Prop
  | refl (x : Float) : Reaches c 0 x x
  | step {k : Nat} {x y z : Float} (first : Steps c x y) (rest : Reaches c k y z) :
      Reaches c (k + 1) x z

/-- Among the first hundred points of the orbit of the seed, `x` is the first at which the
polynomial is nearly zero. -/
def Converges (c : List Float) (seed x : Float) : Prop :=
  ∃ k < patience, Reaches c k seed x ∧ Small c x

section Evaluation

theorem less_iff : Approximate.less x y = true ↔ x < y := decide_eq_true_iff

theorem isZero_eq : Approximate.isZero x = isZero x := Binary64.beq_zero x

theorem quotient_eq (other : isZero y = false) : Approximate.quotient x y = .ok (x / y) := by
  refine if_neg ?_
  rw [Binary64.beq_zero, other]
  exact Bool.false_ne_true

theorem power_fault {n : Nat} {fault : Fault} (fails : Scalar.power x n = .error fault) :
    fault = .powerTooLarge := by
  change Binary64.power x n = .error fault at fails
  unfold Binary64.power at fails
  split at fails
  next => cases fails
  next =>
    split at fails
    next =>
      dsimp only at fails
      split at fails <;> cases fails
      rfl
    next => cases fails
    next => cases fails

theorem strict_doubles : Strict fun x : Float => isFinite x = true where
  power_fault := power_fault
  quotient_ok other := ⟨_, quotient_eq (isZero_eq.symm.trans other)⟩
  add := Binary64.isFinite_of_add
  mul := Binary64.isFinite_of_mul
  power := Binary64.isFinite_of_power
  near close := Binary64.isFinite_of_abs_lt (less_iff.mp close)

theorem Small.finite (small : Small c x) (degree : 2 ≤ c.length) : isFinite x = true := by
  obtain ⟨value, derivative, found, near⟩ := small
  exact (strict_doubles.accumulate_finite found (Binary64.isFinite_of_abs_lt near)).2 degree

/-- A constant has no slope. -/
theorem Steps.degree (steps : Steps c x y) : 2 ≤ c.length := by
  obtain ⟨value, derivative, found, -, slope, -⟩ := steps
  match c with
  | [] =>
    cases found
    exact absurd slope (by decide +kernel)
  | [a] =>
    rw [evaluate, accumulate] at found
    obtain ⟨p, -, found⟩ := bind_eq_ok found
    cases found
    exact absurd slope (by decide +kernel)
  | _ :: _ :: rest => exact Nat.le_add_left 2 rest.length

/-- What a finite seed converges to is finite. -/
theorem Converges.finite (converges : Converges c x z) (seed : isFinite x = true) :
    isFinite z = true := by
  obtain ⟨k, -, reaches, small⟩ := converges
  cases reaches with
  | refl => exact seed
  | step first => exact small.finite first.degree

end Evaluation

section Approach

/-- What is done where the polynomial has a value. -/
theorem approach_ok {value derivative : Float} (found : evaluate c x = .ok (value, derivative))
    (fuel : Nat) : approach c (fuel + 1) x =
      if value.abs < tolerance then .ok (some x)
      else if isZero derivative then .ok none
      else if (x - value / derivative - x).abs < tolerance then .ok none
      else approach c fuel (x - value / derivative) := by
  rw [approach, found]
  simp only [less_iff, isZero_eq]
  refine if_congr Iff.rfl rfl ?_
  by_cases flat : isZero derivative = true
  · rw [if_pos flat, if_pos flat]
  · rw [if_neg flat, if_neg flat, quotient_eq (Bool.eq_false_iff.mpr flat)]
    rfl

theorem approach_of_small (small : Small c x) (fuel : Nat) :
    approach c (fuel + 1) x = .ok (some x) := by
  obtain ⟨value, derivative, found, near⟩ := small
  rw [approach_ok found, if_pos near]

theorem approach_of_steps (steps : Steps c x y) (fuel : Nat) :
    approach c (fuel + 1) x = approach c fuel y := by
  obtain ⟨value, derivative, found, far, slope, rfl, long⟩ := steps
  rw [approach_ok found, if_neg far, if_neg (Bool.eq_false_iff.mp slope), if_neg long]

/-- The three things that may happen at a point. -/
theorem approach_cases (c : List Float) (fuel : Nat) (x : Float) :
    Small c x ∨ (∃ y, Steps c x y) ∨ approach c (fuel + 1) x = .ok none := by
  cases found : evaluate c x with
  | error fault =>
    obtain rfl := strict_doubles.accumulate_fault found
    rw [approach, found]
    exact .inr (.inr rfl)
  | ok results =>
    obtain ⟨value, derivative⟩ := results
    rw [approach_ok found]
    split_ifs with near flat short
    · exact .inl ⟨value, derivative, found, near⟩
    · exact .inr (.inr rfl)
    · exact .inr (.inr rfl)
    · have slope : isZero derivative = false := Bool.eq_false_iff.mpr flat
      exact .inr (.inl ⟨_, value, derivative, found, near, slope, rfl, short⟩)

/-- Along an orbit the search goes wherever the orbit goes. -/
theorem approach_of_reaches {k : Nat} (reaches : Reaches c k x z) (small : Small c z) {fuel : Nat}
    (enough : k < fuel) : approach c fuel x = .ok (some z) := by
  induction reaches generalizing fuel with
  | refl x =>
    obtain ⟨fuel, rfl⟩ := Nat.exists_eq_add_of_lt enough
    rw [Nat.zero_add]
    exact approach_of_small small fuel
  | step first _ ih =>
    obtain ⟨fuel, rfl⟩ : ∃ n, fuel = n + 1 := ⟨fuel - 1, by omega⟩
    rw [approach_of_steps first]
    exact ih small (Nat.lt_of_succ_lt_succ enough)

/-- The search comes to an end at every seed, and what it finds is what the orbit converges to. -/
theorem approach_total (c : List Float) (fuel : Nat) (x : Float) :
    ∃ found, approach c fuel x = .ok found ∧
      ∀ z, found = some z → ∃ k < fuel, Reaches c k x z ∧ Small c z := by
  induction fuel generalizing x with
  | zero => exact ⟨none, by rw [approach], nofun⟩
  | succ fuel ih =>
    rcases approach_cases c fuel x with small | ⟨y, steps⟩ | none
    · refine ⟨some x, approach_of_small small fuel, ?_⟩
      rintro _ ⟨⟩
      exact ⟨0, Nat.succ_pos fuel, .refl x, small⟩
    · obtain ⟨found, run, converges⟩ := ih y
      refine ⟨found, (approach_of_steps steps fuel).trans run, fun z same => ?_⟩
      obtain ⟨k, bound, reaches, small⟩ := converges z same
      exact ⟨k + 1, Nat.succ_lt_succ bound, .step steps reaches, small⟩
    · exact ⟨Option.none, none, nofun⟩

theorem leads_iff {seed : Float} : Leads c seed z ↔ Converges c seed z := by
  constructor
  · intro run
    obtain ⟨found, same, converges⟩ := approach_total c patience seed
    rw [run] at same
    cases same
    exact converges z rfl
  · rintro ⟨k, bound, reaches, small⟩
    exact approach_of_reaches reaches small bound

/-- A seed converges to one point at most. -/
theorem Converges.unique {seed : Float} (first : Converges c seed x) (second : Converges c seed y) :
    x = y :=
  (leads_iff.mpr first).unique (leads_iff.mpr second)

end Approach

end RootFinder.Newton
