import Mathlib
import RootFinder.Proofs.Binary64.Code

/-! Reading numbers. What is read depends on the value alone, not on the way it is written, and a
value that a double has is read as that double. -/
namespace RootFinder

theorem roundDiv_scale {k : Nat} (num den : Nat) (h : 0 < k) :
    roundDiv (num * k) (den * k) = roundDiv num den := by
  have twice : 2 * (num % den * k) = 2 * (num % den) * k := by ring
  simp only [roundDiv, Nat.mul_div_mul_right _ _ h, Nat.mul_mod_mul_right, twice,
    Nat.mul_lt_mul_right h]

namespace Binary64

theorem nearest_scale {k : Nat} (num den : Nat) (h : 0 < k) :
    nearest (num * k) (den * k) = nearest num den := by
  have target : num * k * one = num * one * k := by ring
  simp only [nearest, target, Nat.mul_div_mul_right _ _ h]
  rw [Nat.mul_right_comm den k, roundDiv_scale _ _ h]

theorem one_pos : 0 < one := by decide +kernel

private theorem two_pow_le {a b c : Nat} (h : a ≤ b + c) : 2 ^ a ≤ 2 ^ b * 2 ^ c := by
  rw [← pow_add]
  exact Nat.pow_le_pow_right (Nat.succ_pos 1) h

theorem units_of_lt {rank : Nat} (h : rank < 2 ^ 53) : units rank = rank := by
  unfold units
  split
  · rfl
  · have quotient : rank / 2 ^ 52 = 1 := by omega
    rw [quotient]
    omega

theorem units_of_le {rank : Nat} (h : 2 ^ 52 ≤ rank) :
    units rank = (2 ^ 52 + rank % 2 ^ 52) * 2 ^ (rank / 2 ^ 52 - 1) :=
  if_neg (Nat.not_lt.mpr h)

theorem units_pos {rank : Nat} (h : 0 < rank) : 0 < units rank := by
  by_cases small : rank < 2 ^ 52
  · rw [units, if_pos small]
    exact h
  · rw [units_of_le (Nat.not_lt.mp small)]
    exact Nat.mul_pos (by omega) (Nat.two_pow_pos _)

/-- A magnitude has as many bits as its rank says. -/
theorem units_lt (rank : Nat) : units rank < 2 ^ (52 + rank / 2 ^ 52) := by
  by_cases small : rank < 2 ^ 52
  · rw [units, if_pos small, Nat.div_eq_of_lt small]
    exact small
  · have large : 2 ^ 52 ≤ rank := Nat.not_lt.mp small
    have exponent : 52 + rank / 2 ^ 52 = 53 + (rank / 2 ^ 52 - 1) := by omega
    rw [units_of_le large, exponent, pow_add 2 53]
    apply Nat.mul_lt_mul_of_pos_right _ (Nat.two_pow_pos _)
    omega

/-- The number of bits by which a magnitude of more than 53 bits is shifted. -/
theorem log2_units {rank : Nat} (h : 2 ^ 53 ≤ rank) :
    (units rank).log2 = 52 + (rank / 2 ^ 52 - 1) := by
  have positive : units rank ≠ 0 := (units_pos (by omega)).ne'
  rw [Nat.log2_eq_iff positive, units_of_le (by omega)]
  have below : rank % 2 ^ 52 < 2 ^ 52 := Nat.mod_lt _ (by decide)
  constructor
  · rw [pow_add]
    exact Nat.mul_le_mul_right _ (by omega)
  · rw [Nat.add_right_comm, pow_add]
    exact Nat.mul_lt_mul_of_pos_right (by omega) (Nat.two_pow_pos _)

/-- The value of a rank is read as that rank. -/
theorem nearest_units {num den rank : Nat} (positive : 0 < den)
    (same : num * one = units rank * den) : nearest num den = rank := by
  have quotient : num * one / den = units rank := by
    rw [same, Nat.mul_div_cancel _ positive]
  simp only [nearest, quotient]
  rw [same]
  by_cases small : rank < 2 ^ 53
  · have bits : (units rank).log2 - 52 = 0 := by
      rw [units_of_lt small]
      rcases Nat.eq_zero_or_pos rank with rfl | nonzero
      · decide
      · have := (Nat.log2_lt nonzero.ne').mpr small
        omega
    rw [bits, units_of_lt small, pow_zero, Nat.mul_one, Nat.zero_mul, Nat.zero_add,
      roundDiv_mul positive]
  · have large : 2 ^ 53 ≤ rank := Nat.not_lt.mp small
    have bits : (units rank).log2 - 52 = rank / 2 ^ 52 - 1 := by
      rw [log2_units large]
      omega
    rw [bits, units_of_le (by omega), Nat.mul_assoc, Nat.mul_comm (2 ^ _) den,
      roundDiv_mul (Nat.mul_pos positive (Nat.two_pow_pos _))]
    omega

end Binary64

namespace Decimal

theorem lt_decimalDigits (n : Nat) : n < 10 ^ (decimalDigits n).length :=
  (Nat.length_toDigits_le_iff (by decide) Nat.length_toDigits_pos).mp le_rfl

theorem decimalDigits_le {n : Nat} (positive : 0 < n) :
    10 ^ ((decimalDigits n).length - 1) ≤ n := by
  rcases Nat.eq_zero_or_pos ((decimalDigits n).length - 1) with single | several
  · rw [single]
    exact positive
  · by_contra less
    have := (Nat.length_toDigits_le_iff (by decide) several).mpr (Nat.not_le.mp less)
    simp only [decimalDigits] at *
    omega

/-- Zeros put at the end of a number are so many more digits. -/
theorem length_decimalDigits_mul_pow {n : Nat} (k : Nat) (positive : 0 < n) :
    (decimalDigits (n * 10 ^ k)).length = (decimalDigits n).length + k := by
  have begun : 0 < (decimalDigits n).length := Nat.length_toDigits_pos
  have longer : 0 < n * 10 ^ k := Nat.mul_pos positive (Nat.pow_pos (by decide))
  have upper : 10 ^ ((decimalDigits (n * 10 ^ k)).length - 1) <
      10 ^ ((decimalDigits n).length + k) :=
    calc 10 ^ ((decimalDigits (n * 10 ^ k)).length - 1) ≤ n * 10 ^ k := decimalDigits_le longer
      _ < 10 ^ (decimalDigits n).length * 10 ^ k :=
        Nat.mul_lt_mul_of_pos_right (lt_decimalDigits n) (Nat.pow_pos (by decide))
      _ = 10 ^ ((decimalDigits n).length + k) := (pow_add _ _ _).symm
  have lower : 10 ^ ((decimalDigits n).length - 1 + k) < 10 ^ (decimalDigits (n * 10 ^ k)).length :=
    calc 10 ^ ((decimalDigits n).length - 1 + k) = 10 ^ ((decimalDigits n).length - 1) * 10 ^ k :=
        pow_add _ _ _
      _ ≤ n * 10 ^ k := Nat.mul_le_mul_right _ (decimalDigits_le positive)
      _ < 10 ^ (decimalDigits (n * 10 ^ k)).length := lt_decimalDigits _
  have above := (Nat.pow_lt_pow_iff_right (by decide)).mp upper
  have below := (Nat.pow_lt_pow_iff_right (by decide)).mp lower
  omega

theorem fraction_eq (d : Decimal) :
    d.fraction = (d.coefficient * 10 ^ d.exponent.toNat, 10 ^ (-d.exponent).toNat) := by
  unfold fraction
  split
  · have none : (-d.exponent).toNat = 0 := by omega
    rw [none, pow_zero]
  · have none : d.exponent.toNat = 0 := by omega
    rw [none, pow_zero, Nat.mul_one]

end Decimal

namespace Binary64

open Decimal (decimalDigits)

/-- Tens may stand in the coefficient or in the exponent. -/
theorem ofDecimal_shift (n k : Nat) (e : Int) :
    ofDecimal ⟨n * 10 ^ k, e⟩ = ofDecimal ⟨n, e + k⟩ := by
  rcases Nat.eq_zero_or_pos n with rfl | positive
  · simp [ofDecimal]
  · have nonzero : n * 10 ^ k ≠ 0 := (Nat.mul_pos positive (Nat.pow_pos (by decide))).ne'
    have size : ((decimalDigits (n * 10 ^ k)).length : Int) + e =
        (decimalDigits n).length + (e + k) := by
      rw [Decimal.length_decimalDigits_mul_pow k positive]
      push_cast
      ring
    have value : nearest (n * 10 ^ k * 10 ^ e.toNat) (10 ^ (-e).toNat) =
        nearest (n * 10 ^ (e + k).toNat) (10 ^ (-(e + k)).toNat) := by
      -- the two fractions differ by a power of ten above and below
      obtain ⟨m, common⟩ :
          ∃ m, k + e.toNat = (e + k).toNat + m ∧ (-e).toNat = (-(e + k)).toNat + m :=
        ⟨k + e.toNat - (e + k).toNat, by omega, by omega⟩
      rw [Nat.mul_assoc, ← pow_add, common.1, common.2, pow_add, pow_add, ← Nat.mul_assoc,
        nearest_scale _ _ (Nat.pow_pos (by decide))]
    simp only [ofDecimal, Decimal.fraction_eq, size, value, if_neg nonzero, if_neg positive.ne']

section Places

variable {coefficient rank whole places : Nat}

private theorem tens_pos (n : Nat) : 0 < 10 ^ n := Nat.pow_pos (by decide)

private theorem rank_pos_iff
    (same : coefficient * 10 ^ whole * one = units rank * 10 ^ places) :
    0 < coefficient ↔ 0 < rank := by
  rw [← Nat.mul_pos_iff_of_pos_right (tens_pos whole), ← Nat.mul_pos_iff_of_pos_right one_pos, same,
    Nat.mul_pos_iff_of_pos_right (tens_pos places)]
  constructor
  · intro positive
    by_contra zero
    obtain rfl : rank = 0 := Nat.eq_zero_of_not_pos zero
    exact absurd positive (by decide)
  · exact units_pos

/-- A decimal with the value of a finite rank does not lead above the places of the doubles. -/
private theorem leading_lt (finite : rank < infinity) (positive : 0 < coefficient)
    (same : coefficient * 10 ^ whole * one = units rank * 10 ^ places) :
    (decimalDigits coefficient).length - 1 + whole < 309 + places := by
  have small : units rank < 10 ^ 309 * one := by
    simp only [infinity] at finite
    calc units rank < 2 ^ (52 + rank / 2 ^ 52) := units_lt rank
      _ ≤ 2 ^ 1024 * one := two_pow_le (by omega)
      _ ≤ 10 ^ 309 * one := Nat.mul_le_mul_right _ (by decide +kernel)
  apply (Nat.pow_lt_pow_iff_right (a := 10) (by decide)).mp
  apply Nat.lt_of_mul_lt_mul_right (a := one)
  calc 10 ^ ((decimalDigits coefficient).length - 1 + whole) * one
      = 10 ^ ((decimalDigits coefficient).length - 1) * 10 ^ whole * one := by rw [pow_add]
    _ ≤ coefficient * 10 ^ whole * one :=
        Nat.mul_le_mul_right _ (Nat.mul_le_mul_right _ (Decimal.decimalDigits_le positive))
    _ = units rank * 10 ^ places := same
    _ < 10 ^ 309 * one * 10 ^ places := Nat.mul_lt_mul_of_pos_right small (tens_pos _)
    _ = 10 ^ (309 + places) * one := by rw [pow_add, Nat.mul_right_comm]

/-- Nor does it lead below them. -/
private theorem lt_leading (nonzero : 0 < rank)
    (same : coefficient * 10 ^ whole * one = units rank * 10 ^ places) :
    places < (decimalDigits coefficient).length + whole + 324 := by
  apply (Nat.pow_lt_pow_iff_right (a := 10) (by decide)).mp
  calc 10 ^ places ≤ units rank * 10 ^ places := Nat.le_mul_of_pos_left _ (units_pos nonzero)
    _ = coefficient * 10 ^ whole * one := same.symm
    _ < 10 ^ (decimalDigits coefficient).length * 10 ^ whole * one :=
        Nat.mul_lt_mul_of_pos_right
          (Nat.mul_lt_mul_of_pos_right (Decimal.lt_decimalDigits _) (tens_pos _)) one_pos
    _ ≤ 10 ^ (decimalDigits coefficient).length * 10 ^ whole * 10 ^ 324 :=
        Nat.mul_le_mul_left _ (by decide +kernel)
    _ = 10 ^ ((decimalDigits coefficient).length + whole + 324) := by rw [pow_add, pow_add]

end Places

/-- A decimal that has the value of a finite rank is read as that rank. -/
theorem ofDecimal_exact {d : Decimal} {rank : Nat} (finite : rank < infinity)
    (same : d.fraction.1 * one = units rank * d.fraction.2) : ofDecimal d = rank := by
  rw [Decimal.fraction_eq] at same
  dsimp only at same
  rcases Nat.eq_zero_or_pos d.coefficient with none | positive
  · have zero : ¬ 0 < rank := by
      rw [← rank_pos_iff same, none]
      exact Nat.lt_irrefl 0
    rw [ofDecimal, if_pos none, Nat.eq_zero_of_not_pos zero]
  · have begun : 0 < (decimalDigits d.coefficient).length := Nat.length_toDigits_pos
    have upper := leading_lt finite positive same
    have lower := lt_leading ((rank_pos_iff same).mp positive) same
    simp only [ofDecimal, Decimal.fraction_eq]
    rw [if_neg positive.ne', if_neg (by omega), if_neg (by omega),
      nearest_units (tens_pos _) same]
    exact Nat.min_eq_right finite.le

end Binary64

end RootFinder
