/-! Rounding a quotient of naturals to a whole number; a half goes to the even neighbour. -/
namespace RootFinder

def roundDiv (num den : Nat) : Nat :=
  let q := num / den
  let r := num % den
  if 2 * r < den then q else if den < 2 * r then q + 1 else q + q % 2

/-- The result is within half a unit of the quotient. -/
theorem roundDiv_near {num den : Nat} (h : 0 < den) :
    2 * num ≤ 2 * (roundDiv num den * den) + den ∧
      2 * (roundDiv num den * den) ≤ 2 * num + den := by
  have hq := Nat.div_add_mod num den
  have hr := Nat.mod_lt num h
  have hm : num / den * den = den * (num / den) := Nat.mul_comm _ _
  unfold roundDiv
  dsimp only
  split
  · omega
  · split
    · rw [Nat.add_mul]; omega
    · rcases Nat.mod_two_eq_zero_or_one (num / den) with h2 | h2 <;> rw [h2, Nat.add_mul] <;> omega

theorem roundDiv_mul {den : Nat} (h : 0 < den) (n : Nat) : roundDiv (n * den) den = n := by
  simp [roundDiv, Nat.mul_div_cancel _ h, h]

theorem roundDiv_zero (den : Nat) : roundDiv 0 den = 0 := by
  unfold roundDiv
  simp only [Nat.zero_div, Nat.zero_mod]
  split
  · rfl
  · split
    · omega
    · rfl

end RootFinder
