import Mathlib
import RootFinder.Binary64.Exact

/-! Coefficient vectors as formal polynomials, and the exact value of a double. -/
namespace RootFinder

/-- The number that a double is; zero for one that is not finite. -/
def Binary64.value (x : Float) : ℚ :=
  match Exact.ofFloat x with
  | .finite a => a.toRat
  | _ => 0

theorem Binary64.value_of_isZero {x : Float} (zero : isZero x = true) : value x = 0 := by
  unfold isZero at zero
  unfold value Exact.ofFloat
  split at zero
  · rename_i negative rank same
    have none : rank = 0 := eq_of_beq zero
    subst none
    rw [same]
    cases negative <;> rfl
  · cases zero

namespace Polynomial

variable {R : Type} [Semiring R]

/-- The polynomial of a vector, whose first coefficient is that of the highest power. -/
noncomputable def formal : List R → Polynomial R
  | [] => 0
  | c :: rest => .monomial rest.length c + formal rest

/-- The polynomial has the coefficients of the vector, the last one at the power zero. -/
theorem coeff_formal (cs : List R) (n : Nat) : (formal cs).coeff n = cs.reverse.getD n 0 := by
  induction cs with
  | nil => simp [formal]
  | cons c rest ih =>
    rw [formal, Polynomial.coeff_add, Polynomial.coeff_monomial, ih, List.reverse_cons]
    rcases lt_or_ge n rest.length with low | high
    · rw [if_neg low.ne', zero_add, List.getD_append _ _ _ _ (by simpa using low)]
    · have above : rest.reverse.getD n 0 = 0 := List.getD_eq_default _ _ (by simpa using high)
      rw [above, add_zero, List.getD_append_right _ _ _ _ (by simpa using high),
        List.length_reverse]
      rcases high.eq_or_lt with here | beyond
      · rw [if_pos here, ← here, Nat.sub_self, List.getD_cons_zero]
      · rw [if_neg beyond.ne, List.getD_eq_default]
        simp only [List.length_singleton]
        omega

@[simp] theorem formal_zeros (n : Nat) : formal (List.replicate n (0 : R)) = 0 := by
  induction n with
  | zero => rfl
  | succ n ih => simp [List.replicate_succ, formal, ih]

/-- Zeros at the end of a vector are roots at zero of its polynomial. -/
theorem formal_append_zeros (cs : List R) (n : Nat) :
    formal (cs ++ List.replicate n 0) = .X ^ n * formal cs := by
  induction cs with
  | nil => simp [formal]
  | cons c rest ih =>
    have shifted : Polynomial.monomial (rest ++ List.replicate n (0 : R)).length c =
        .X ^ n * Polynomial.monomial rest.length c := by
      rw [Polynomial.X_pow_mul_monomial, List.length_append, List.length_replicate]
    rw [List.cons_append, formal, formal, ih, shifted, mul_add]

theorem formal_values_append {coefficients zeros : List Float}
    (zero : ∀ z ∈ zeros, Binary64.isZero z = true) :
    formal ((coefficients ++ zeros).map Binary64.value) =
      .X ^ zeros.length * formal (coefficients.map Binary64.value) := by
  have values : zeros.map Binary64.value = List.replicate zeros.length 0 := by
    apply List.eq_replicate_iff.mpr
    constructor
    · simp
    · intro value member
      obtain ⟨z, inZeros, rfl⟩ := List.mem_map.mp member
      exact Binary64.value_of_isZero (zero z inZeros)
  rw [List.map_append, values, formal_append_zeros]

end Polynomial

end RootFinder
