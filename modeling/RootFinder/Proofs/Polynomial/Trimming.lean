import Mathlib.Data.List.DropRight
import RootFinder.Polynomial.Trimming
import RootFinder.Proofs.Expression.Bounds

/-! What trimming leaves. Nothing is left to trim, and what is left ends with a coefficient other
than zero, unless the vector is a cubic or a single coefficient is left. -/
namespace RootFinder.Polynomial

open Binary64 (isZero)

variable {coefficients : List Float}

/-- A trimmed vector is the vector without some zeros at its end; a cubic loses none. -/
theorem eq_trim_append (coefficients : List Float) : ∃ zeros : List Float,
    (∀ z ∈ zeros, isZero z = true) ∧ coefficients = trim coefficients ++ zeros ∧
      (coefficients.length = 4 → zeros = []) := by
  by_cases cubic : coefficients.length = 4
  · refine ⟨[], by simp, ?_, fun _ => rfl⟩
    rw [trim_of_length_four cubic, List.append_nil]
  · obtain ⟨zeros, zero, split⟩ := eq_dropTrailingZeros_append coefficients
    refine ⟨zeros, zero, ?_, fun four => absurd four cubic⟩
    rw [trim, if_neg cubic]
    exact split

/-- What can be parsed can be parsed without the zeros at its end. -/
theorem trim_accepted (accepted : Expression.Accepted coefficients) :
    Expression.Accepted (trim coefficients) := by
  obtain ⟨zeros, -, split, -⟩ := eq_trim_append coefficients
  constructor
  · exact trim_ne_nil accepted.begun
  · intro c member
    apply accepted.finite
    rw [split]
    exact List.mem_append_left zeros member
  · have lengths := congrArg List.length split
    rw [List.length_append] at lengths
    have short := accepted.length
    omega

theorem dropTrailingZeros_cons (first : Float) (rest : List Float) :
    dropTrailingZeros (first :: rest) = first :: rest.rdropWhile isZero := rfl

theorem dropTrailingZeros_idem (coefficients : List Float) :
    dropTrailingZeros (dropTrailingZeros coefficients) = dropTrailingZeros coefficients := by
  cases coefficients with
  | nil => rfl
  | cons first rest =>
    rw [dropTrailingZeros_cons, dropTrailingZeros_cons, List.rdropWhile_idempotent]

theorem trim_trim (coefficients : List Float) : trim (trim coefficients) = trim coefficients := by
  by_cases cubic : coefficients.length = 4
  · rw [trim_of_length_four cubic, trim_of_length_four cubic]
  · have once : trim coefficients = dropTrailingZeros coefficients := if_neg cubic
    rw [once]
    by_cases shortened : (dropTrailingZeros coefficients).length = 4
    · exact trim_of_length_four shortened
    · rw [trim, if_neg shortened, dropTrailingZeros_idem]

/-- The last coefficient that trimming leaves is not zero, unless it is the first. -/
theorem trim_ended (begun : coefficients ≠ []) (other : coefficients.length ≠ 4) :
    (trim coefficients).length = 1 ∨
      ∃ last, (trim coefficients).getLast? = some last ∧ isZero last = false := by
  rw [trim, if_neg other]
  cases coefficients with
  | nil => exact absurd rfl begun
  | cons first rest =>
    rw [dropTrailingZeros_cons]
    by_cases none : rest.rdropWhile isZero = []
    · rw [none]
      exact .inl rfl
    · have last := List.rdropWhile_last_not isZero rest none
      refine .inr ⟨(rest.rdropWhile isZero).getLast none, ?_, Bool.eq_false_iff.mpr last⟩
      rw [List.getLast?_cons, List.getLast?_eq_some_getLast none]
      rfl

/-- Trimming leaves a constant of a constant, and of what is zero after its first coefficient
unless it is a cubic. -/
theorem trim_constant_iff (begun : coefficients ≠ []) : (trim coefficients).length < 2 ↔
    coefficients.length = 1 ∨
      (coefficients.length ≠ 4 ∧ ∀ c ∈ coefficients.tail, isZero c = true) := by
  by_cases cubic : coefficients.length = 4
  · rw [trim_of_length_four cubic]
    omega
  · rw [trim, if_neg cubic]
    cases coefficients with
    | nil => exact absurd rfl begun
    | cons first rest =>
      have none : (dropTrailingZeros (first :: rest)).length < 2 ↔ ∀ c ∈ rest, isZero c = true := by
        rw [← List.rdropWhile_eq_nil_iff, ← List.length_eq_zero_iff, dropTrailingZeros_cons,
          List.length_cons]
        omega
      rw [none]
      constructor
      · intro zero
        exact .inr ⟨cubic, zero⟩
      · rintro (single | ⟨-, zero⟩)
        · have empty : rest = [] := by simpa using single
          simp [empty]
        · exact zero

end RootFinder.Polynomial
