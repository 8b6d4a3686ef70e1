import Mathlib
import RootFinder.Binary64.Places
import RootFinder.Decimal.Display
import RootFinder.Proofs.Binary64.Nearest

/-! Places. The double to which a magnitude is rounded need not be the multiple of a power of ten that
was meant, but none is nearer to it, the magnitude itself included. So both are rounded to the same
multiple, however far apart doubles and multiples lie. -/
namespace RootFinder.Binary64

section Multiples

variable {up down : Nat}

theorem roundDiv_roundRank (ups : 0 < up) (downs : 0 < down) (rank : Nat) :
    roundDiv (units (nearest (roundDiv (units rank * up) (one * down) * down) up) * up)
      (one * down) = roundDiv (units rank * up) (one * down) := by
  have nearer := nearest_nearest (roundDiv (units rank * up) (one * down) * down) ups rank
  rw [Nat.mul_assoc _ down one, Nat.mul_comm down one] at nearer
  exact roundDiv_of_nearer (Nat.mul_pos one_pos downs) nearer

end Multiples

theorem roundRank_roundRank (places : Int) (rank : Nat) :
    roundRank places (roundRank places rank) = roundRank places rank := by
  unfold roundRank
  split_ifs
  · rfl
  · rfl
  · dsimp only
    rw [roundDiv_roundRank (Nat.pow_pos (by decide)) (Nat.pow_pos (by decide))]

/-- Rounding to places that are kept. -/
theorem roundRank_of_nonneg {places : Nat} (few : places ≤ 323) (rank : Nat) :
    roundRank places rank =
      nearest (Decimal.rounded places rank).coefficient (10 ^ places) := by
  have none : (-(places : Int)).toNat = 0 := by omega
  rw [roundRank, if_neg (by omega), if_neg (by omega)]
  simp only [Int.toNat_natCast, none, pow_zero, Nat.mul_one, Decimal.rounded]

theorem rounded_roundRank {places : Nat} (few : places ≤ 323) (rank : Nat) :
    Decimal.rounded places (roundRank places rank) = Decimal.rounded places rank := by
  have same := @roundDiv_roundRank (10 ^ places) 1 (Nat.pow_pos (by decide)) Nat.one_pos rank
  rw [Nat.mul_one, Nat.mul_one] at same
  rw [roundRank_of_nonneg few]
  simp only [Decimal.rounded, same]

/-- Nothing but a magnitude that is rounded to zero places of zero is rounded to zero. -/
theorem roundRank_eq_zero {places : Nat} (few : places ≤ 323) {rank : Nat} :
    roundRank places rank = 0 ↔ (Decimal.rounded places rank).coefficient = 0 := by
  constructor
  · intro zero
    rw [← rounded_roundRank few, zero]
    simp only [Decimal.rounded, units_zero, Nat.zero_mul, roundDiv_zero]
  · intro zero
    rw [roundRank_of_nonneg few, zero]
    exact nearest_zero _

/-- The greatest double is whole. -/
theorem units_greatest : ∃ n, units (infinity - 1) = n * one :=
  ⟨units (infinity - 1) / one, by decide +kernel⟩

/-- No finite magnitude is rounded beyond the doubles when places are kept. -/
theorem roundRank_lt_infinity (places : Nat) {rank : Nat} (finite : rank < infinity) :
    roundRank places rank < infinity := by
  rcases Nat.lt_or_ge 323 places with many | few
  · rw [roundRank, if_pos (by exact_mod_cast many)]
    exact finite
  · simp only [roundRank_of_nonneg few, Decimal.rounded]
    apply Nat.lt_of_le_pred (Nat.zero_lt_of_lt finite)
    apply nearest_le (Nat.pow_pos (by decide))
    obtain ⟨n, whole⟩ := units_greatest
    have bound : units rank * 10 ^ places ≤ n * 10 ^ places * one := by
      rw [Nat.mul_right_comm, ← whole]
      exact Nat.mul_le_mul_right _ (units_mono (Nat.le_pred_of_lt finite))
    have multiple := roundDiv_mono one bound
    rw [roundDiv_mul one_pos] at multiple
    calc roundDiv (units rank * 10 ^ places) one * one
        ≤ n * 10 ^ places * one := Nat.mul_le_mul_right one multiple
      _ = n * one * 10 ^ places := Nat.mul_right_comm _ _ _
      _ = units (infinity - 1) * 10 ^ places := by rw [whole]

variable {negative : Bool} {rank : Nat} {x y : Float}

/-- The sign of a zero is dropped. -/
theorem foldZero_make (negative : Bool) (finite : rank < infinity) :
    foldZero (make negative rank) = make (negative && rank != 0) rank := by
  unfold foldZero isZero
  rw [parts_make negative finite]
  rcases Nat.eq_zero_or_pos rank with rfl | positive
  · rw [bne_self_eq_false, Bool.and_false]
    rfl
  · rw [bne_iff_ne.mpr positive.ne', Bool.and_true]
    cases rank with
    | zero => cases positive
    | succ n => rfl

theorem round_finite (same : parts x = .finite negative rank) (places : Int) :
    round places x = if infinity ≤ roundRank places rank then .error .roundedTooLarge
      else .ok (make negative (roundRank places rank)) := by
  rw [round, same]

end RootFinder.Binary64
