import Mathlib
import RootFinder.Polynomial.Printer
import RootFinder.Proofs.Decimal.Shortest
import RootFinder.Proofs.Expression.Grammar

/-! The numerals written for magnitudes are numbers of the grammar, and are read as the magnitude
they were written for. -/
namespace RootFinder.Polynomial

open Binary64 (ofDecimal ofDecimal_shift ofDecimal_exact infinity units one)
open Decimal (decimalDigits withPoint)
open Expression (Digits Number)

/-- Digits with so many places after the point, when some are left before it. -/
theorem withPoint_number {places : Nat} (digits : Digits) (some : places ≠ 0) :
    ∃ n : Number, n.text = withPoint places digits.chars ∧
      n.decimal = ⟨digits.value, -(places : Int)⟩ := by
  let padded := List.replicate (places + 1 - digits.chars.length) '0' ++ digits.chars
  have length : places < padded.length := by
    simp only [padded, List.length_append, List.length_replicate]
    omega
  have plain : ∀ c ∈ padded, c.isDigit = true := by
    intro c member
    rcases List.mem_append.mp member with zero | inDigits
    · rw [List.eq_of_mem_replicate zero]
      rfl
    · exact digits.plain c inDigits
  have value : Nat.ofDigitChars 10 padded 0 = digits.value := by
    simp only [padded]
    rw [Nat.ofDigitChars_append, Nat.ofDigitChars_replicate_zero]
    rfl
  let whole : Digits := {
    chars := padded.take (padded.length - places)
    begun := by
      apply List.ne_nil_of_length_pos
      rw [List.length_take]
      omega
    plain := fun c member => plain c (List.mem_of_mem_take member) }
  let fraction : Digits := {
    chars := padded.drop (padded.length - places)
    begun := by
      apply List.ne_nil_of_length_pos
      rw [List.length_drop]
      omega
    plain := fun c member => plain c (List.mem_of_mem_drop member) }
  refine ⟨⟨whole, fraction⟩, ?_, ?_⟩
  · rw [withPoint, if_neg some]
    rfl
  · have size : fraction.chars.length = places := by
      simp only [fraction, List.length_drop]
      omega
    simp only [Number.decimal, Number.places, Option.map_some, Option.getD_some, size]
    simp only [whole, fraction, List.take_append_drop, value]

/-- A decimal in plain notation keeps its value. -/
theorem plain_number (d : Decimal) :
    ∃ n : Number, n.text = d.plain ∧ ofDecimal n.decimal = ofDecimal d := by
  obtain ⟨coefficient, exponent⟩ := d
  by_cases whole : 0 ≤ exponent
  · have written : Nat.ofDigitChars 10
        (decimalDigits coefficient ++ List.replicate exponent.toNat '0') 0 =
          coefficient * 10 ^ exponent.toNat := by
      rw [Nat.ofDigitChars_append, Nat.ofDigitChars_replicate_zero, Nat.mul_comm]
      exact congrArg (· * 10 ^ exponent.toNat) (Digits.value_ofNat coefficient)
    let digits : Digits := {
      chars := decimalDigits coefficient ++ List.replicate exponent.toNat '0'
      begun := fun h => (Digits.ofNat coefficient).begun (List.append_eq_nil_iff.mp h).1
      plain := by
        intro c member
        rcases List.mem_append.mp member with inDigits | zero
        · exact (Digits.ofNat coefficient).plain c inDigits
        · rw [List.eq_of_mem_replicate zero]
          rfl }
    refine ⟨⟨digits, none⟩, ?_, ?_⟩
    · rw [Decimal.plain, if_pos whole]
      exact List.append_nil _
    · simp only [Number.decimal, Number.places, Option.map_none, Option.getD_none,
        List.append_nil, digits, written]
      have same := ofDecimal_shift coefficient exponent.toNat 0
      rw [Int.zero_add, Int.toNat_of_nonneg whole] at same
      exact same
  · have places : (-exponent).toNat ≠ 0 := by omega
    obtain ⟨n, text, decimal⟩ := withPoint_number (Digits.ofNat coefficient) places
    refine ⟨n, ?_, ?_⟩
    · rw [text, Decimal.plain, if_neg whole]
      rfl
    · have same : -((-exponent).toNat : Int) = exponent := by omega
      rw [decimal, Digits.value_ofNat, same]

/-- The magnitude of a finite double is written as a number that is read as it. -/
theorem magnitude_number {x : Float} {negative : Bool} {rank : Nat}
    (same : Binary64.parts x = .finite negative rank) :
    ∃ n : Number, n.text = magnitude x ∧ ofDecimal n.decimal = rank := by
  have finite := (Binary64.parts_finite same).1
  by_cases whole : Binary64.isWhole rank = true
  · refine ⟨⟨.ofNat (units rank / one), none⟩, ?_, ?_⟩
    · simp only [magnitude, same, if_pos whole]
      exact List.append_nil _
    · have value := Digits.value_ofNat (units rank / one)
      simp only [Number.decimal, Number.places, Option.map_none, Option.getD_none, List.append_nil]
      rw [Digits.value] at value
      rw [value]
      apply ofDecimal_exact finite
      have exact : units rank / one * one = units rank :=
        Nat.div_mul_cancel (Nat.dvd_of_mod_eq_zero (beq_iff_eq.mp whole))
      simp only [Decimal.fraction, List.length_nil, Nat.cast_zero, neg_zero, le_refl, if_true,
        Int.toNat_zero, Nat.pow_zero, Nat.mul_one, exact]
  · obtain ⟨n, text, decimal⟩ := plain_number (Decimal.shortest rank)
    refine ⟨n, ?_, decimal.trans (Decimal.ofDecimal_shortest finite)⟩
    simp only [text, magnitude, same, if_neg whole]

end RootFinder.Polynomial
