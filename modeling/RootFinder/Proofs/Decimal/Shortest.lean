import RootFinder.Decimal.Shortest
import RootFinder.Proofs.Binary64.Reading

/-! The shortest decimal of a magnitude is read as that magnitude. -/
namespace RootFinder.Decimal

open Binary64 (ofDecimal ofDecimal_shift ofDecimal_exact units one infinity)

theorem ofDecimal_dropZeros (fuel : Nat) (d : Decimal) :
    ofDecimal (dropZeros fuel d) = ofDecimal d := by
  induction fuel generalizing d with
  | zero => rfl
  | succ fuel ih =>
    simp only [dropZeros]
    split
    · rename_i zero
      have coefficient : d.coefficient / 10 * 10 ^ 1 = d.coefficient := by omega
      have shift := ofDecimal_shift (d.coefficient / 10) 1 d.exponent
      rw [coefficient] at shift
      rw [ih]
      exact shift.symm
    · rfl

/-- The magnitude written out in full has its value. -/
theorem ofDecimal_exact_decimal {rank : Nat} (finite : rank < infinity) :
    ofDecimal (exact rank) = rank := by
  apply ofDecimal_exact finite
  have power : 5 ^ 1074 * one = 10 ^ 1074 := by decide +kernel
  have whole : (-1074 : Int).toNat = 0 := by decide
  have places : (-(-1074) : Int).toNat = 1074 := by decide
  simp only [exact, fraction_eq]
  rw [whole, places, Nat.pow_zero, Nat.mul_one, Nat.mul_assoc, power]

theorem ofDecimal_shortest {rank : Nat} (finite : rank < infinity) :
    ofDecimal (shortest rank) = rank := by
  simp only [shortest, ofDecimal_dropZeros]
  cases search : (List.range 17).findSome? fun count =>
      (candidates rank (leadingPlace rank - (count + 1 : Nat))).find? (ofDecimal · == rank) with
  | none => exact ofDecimal_exact_decimal finite
  | some d =>
    obtain ⟨count, _, found⟩ := List.exists_of_findSome?_eq_some search
    have same := List.find?_some found
    simp only [beq_iff_eq] at same
    exact same

end RootFinder.Decimal
