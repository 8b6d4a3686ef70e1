import Mathlib
import RootFinder.Proofs.Binary64.Sum

/-! Nearest. A quotient is rounded to the whole number nearest to it, to the even one of two, and read
as a magnitude to which no other magnitude is nearer. -/
namespace RootFinder

section Quotients

variable {a b m : Nat}

theorem multiple_step (b : Nat) {j k : Nat} (less : j < k) : j * b + b ≤ k * b := by
  rw [← Nat.succ_mul]
  exact Nat.mul_le_mul_right b less

/-- The quotient is rounded down, or up to the next whole number. -/
theorem roundDiv_cases (a b : Nat) :
    roundDiv a b = a / b ∧ (2 * (a % b) < b ∨ 2 * (a % b) = b ∧ a / b % 2 = 0) ∨
      roundDiv a b = a / b + 1 ∧ (b < 2 * (a % b) ∨ 2 * (a % b) = b ∧ a / b % 2 = 1) := by
  unfold roundDiv
  dsimp only
  split_ifs <;> omega

/-- The one whole number that is nearer than a half, or the even one of two at a half. -/
theorem roundDiv_eq_iff (positive : 0 < b) : roundDiv a b = m ↔
    2 * Nat.dist a (m * b) < b ∨ 2 * Nat.dist a (m * b) = b ∧ m % 2 = 0 := by
  have parts := Nat.div_add_mod a b
  have below := Nat.mod_lt a positive
  rw [Nat.mul_comm] at parts
  have next : (a / b + 1) * b = a / b * b + b := Nat.succ_mul _ _
  unfold Nat.dist
  rcases roundDiv_cases a b with ⟨rounded, down⟩ | ⟨rounded, up⟩ <;> rw [rounded]
  all_goals
    constructor
    · rintro rfl
      omega
    · intro near
      rcases Nat.lt_trichotomy m (a / b) with less | rfl | more
      · have step := multiple_step b less
        omega
      · omega
      · rcases Nat.lt_or_eq_of_le (Nat.succ_le_of_lt more) with far | same
        · have step := multiple_step b far
          rw [Nat.succ_eq_add_one, next] at step
          omega
        · rw [← same, Nat.succ_eq_add_one, next] at near
          omega

/-- No multiple is nearer. -/
theorem roundDiv_nearest (positive : 0 < b) (k : Nat) :
    Nat.dist (roundDiv a b * b) a ≤ Nat.dist (k * b) a := by
  have near := @roundDiv_near a b positive
  unfold Nat.dist
  rcases Nat.lt_trichotomy k (roundDiv a b) with less | rfl | more
  · have step := multiple_step b less
    omega
  · exact le_rfl
  · have step := multiple_step b more
    omega

/-- What lies no further from a rounded number than the number itself is rounded to the same. -/
theorem roundDiv_of_nearer {c : Nat} (positive : 0 < b)
    (nearer : Nat.dist c (roundDiv a b * b) ≤ Nat.dist a (roundDiv a b * b)) :
    roundDiv c b = roundDiv a b := by
  rw [roundDiv_eq_iff positive]
  rcases (roundDiv_eq_iff positive (a := a)).mp rfl with near | ⟨tie, even⟩
  · left
    omega
  · rcases Nat.lt_or_eq_of_le nearer with less | same
    · left
      omega
    · right
      exact ⟨by omega, even⟩

end Quotients

namespace Binary64

section Grid

variable {rank shift m : Nat}

/-- A rank is told from its size. -/
theorem units_strictMono : StrictMono units := by
  intro a b less
  refine lt_of_le_of_ne (units_mono less.le) fun same => ?_
  have ranks := congrArg rankOf same
  rw [rankOf_units, rankOf_units] at ranks
  omega

/-- The size of a rank that is put together from a shift and a mantissa. -/
theorem units_shifted (upper : m ≤ 2 ^ 53) (normal : m < 2 ^ 52 → shift = 0) :
    units (shift * 2 ^ 52 + m) = m * 2 ^ shift := by
  rcases Nat.lt_or_ge m (2 ^ 52) with small | large
  · rw [normal small, Nat.zero_mul, Nat.zero_add, units_of_lt (by omega), pow_zero, Nat.mul_one]
  · rw [units_of_le (by omega)]
    rcases Nat.lt_or_eq_of_le upper with less | rfl
    · have mantissa : 2 ^ 52 + (shift * 2 ^ 52 + m) % 2 ^ 52 = m := by omega
      have exponent : (shift * 2 ^ 52 + m) / 2 ^ 52 - 1 = shift := by omega
      rw [mantissa, exponent]
    · have mantissa : 2 ^ 52 + (shift * 2 ^ 52 + 2 ^ 53) % 2 ^ 52 = 2 ^ 52 := by omega
      have exponent : (shift * 2 ^ 52 + 2 ^ 53) / 2 ^ 52 - 1 = shift + 1 := by omega
      rw [mantissa, exponent]
      ring

/-- A size is a multiple of a power of two, or is less than that power with the unit bit. -/
theorem units_grid (rank shift : Nat) :
    (∃ k, units rank = k * 2 ^ shift) ∨ 0 < shift ∧ units rank < 2 ^ 52 * 2 ^ shift := by
  rcases Nat.lt_or_ge (rank / 2 ^ 52 - 1) shift with finer | coarser
  · right
    refine ⟨Nat.zero_lt_of_lt finer, ?_⟩
    rw [← pow_add]
    exact Nat.lt_of_lt_of_le (units_lt rank) (Nat.pow_le_pow_right (by decide) (by omega))
  · left
    rcases Nat.lt_or_ge rank (2 ^ 52) with small | large
    · have none : shift = 0 := by omega
      exact ⟨units rank, by rw [none, pow_zero, Nat.mul_one]⟩
    · obtain ⟨more, same⟩ := Nat.exists_eq_add_of_le coarser
      refine ⟨(2 ^ 52 + rank % 2 ^ 52) * 2 ^ more, ?_⟩
      rw [units_of_le large, same]
      ring

end Grid

section Reading

variable {num den : Nat}

/-- The shift and the mantissa of which the nearest rank is made: the mantissa fits, and has its
unit bit unless nothing is shifted; then the quotient is not less than the unit bit. -/
theorem nearest_parts (num : Nat) (positive : 0 < den) : ∃ shift m,
    nearest num den = shift * 2 ^ 52 + m ∧ m = roundDiv (num * one) (den * 2 ^ shift) ∧
      m ≤ 2 ^ 53 ∧ (m < 2 ^ 52 → shift = 0) ∧
      (0 < shift → 2 ^ 52 * (den * 2 ^ shift) ≤ num * one) := by
  obtain ⟨shift, least⟩ : ∃ shift, shift = (num * one / den).log2 - 52 := ⟨_, rfl⟩
  have unit : 0 < den * 2 ^ shift := Nat.mul_pos positive (Nat.two_pow_pos _)
  have upper : roundDiv (num * one) (den * 2 ^ shift) ≤ 2 ^ 53 := by
    have bound : num * one ≤ 2 ^ 53 * (den * 2 ^ shift) := by
      have fits : num * one / den < 2 ^ (53 + shift) :=
        Nat.lt_of_lt_of_le Nat.lt_log2_self (Nat.pow_le_pow_right (by decide) (by omega))
      rw [Nat.div_lt_iff_lt_mul positive, pow_add, Nat.mul_assoc, Nat.mul_comm (2 ^ shift)] at fits
      exact fits.le
    exact (roundDiv_mono _ bound).trans_eq (roundDiv_mul unit _)
  have lower : 0 < shift → 2 ^ 52 * (den * 2 ^ shift) ≤ num * one := by
    intro shifted
    have some : num * one / den ≠ 0 := by
      intro none
      rw [none] at least
      exact shifted.ne' least
    have reached : 2 ^ (52 + shift) ≤ num * one / den := by
      rw [show 52 + shift = (num * one / den).log2 by omega]
      exact Nat.log2_self_le some
    rwa [Nat.le_div_iff_mul_le positive, pow_add, Nat.mul_assoc, Nat.mul_comm (2 ^ shift)] at reached
  refine ⟨shift, _, ?_, rfl, upper, fun small => ?_, lower⟩
  · rw [least]
    rfl
  · by_contra shifted
    have unitBit := roundDiv_mono (den * 2 ^ shift) (lower (Nat.pos_of_ne_zero shifted))
    rw [roundDiv_mul unit] at unitBit
    omega

/-- No magnitude is nearer to a quotient than the one it is read as. -/
theorem nearest_nearest (num : Nat) (positive : 0 < den) (rank : Nat) :
    Nat.dist (units (nearest num den) * den) (num * one) ≤
      Nat.dist (units rank * den) (num * one) := by
  obtain ⟨shift, m, same, rounded, upper, normal, lower⟩ := nearest_parts num positive
  have unit : 0 < den * 2 ^ shift := Nat.mul_pos positive (Nat.two_pow_pos _)
  have size : units (nearest num den) * den = m * (den * 2 ^ shift) := by
    rw [same, units_shifted upper normal]
    ring
  rw [size, rounded]
  rcases units_grid rank shift with ⟨k, multiple⟩ | ⟨shifted, small⟩
  · have other : units rank * den = k * (den * 2 ^ shift) := by
      rw [multiple]
      ring
    rw [other]
    exact roundDiv_nearest unit k
  · -- a finer magnitude lies below the unit bit, which is a multiple and not above the quotient
    have below : units rank * den ≤ 2 ^ 52 * (den * 2 ^ shift) := by
      calc units rank * den ≤ 2 ^ 52 * 2 ^ shift * den := Nat.mul_le_mul_right _ small.le
        _ = 2 ^ 52 * (den * 2 ^ shift) := by ring
    have unitBit := lower shifted
    refine (roundDiv_nearest unit (2 ^ 52)).trans ?_
    unfold Nat.dist
    omega

/-- A quotient not above a size is read as no larger one. -/
theorem nearest_le {rank : Nat} (positive : 0 < den) (bound : num * one ≤ units rank * den) :
    nearest num den ≤ rank := by
  by_contra above
  have nearer := nearest_nearest num positive rank
  have larger : units rank * den < units (nearest num den) * den :=
    Nat.mul_lt_mul_of_pos_right (units_strictMono (Nat.not_le.mp above)) positive
  unfold Nat.dist at nearer
  omega

end Reading

end Binary64

end RootFinder
