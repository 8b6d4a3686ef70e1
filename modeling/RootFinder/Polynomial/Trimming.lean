import RootFinder.Binary64

/-! Trimming a coefficient vector: the zeros at its end, that is the roots at zero, are dropped
while another coefficient is left. A cubic keeps them. -/
namespace RootFinder.Polynomial

/-- The list without the zeros at its end, but never without its first element. -/
def dropTrailingZeros : List Float → List Float
  | [] => []
  | first :: rest => first :: (rest.reverse.dropWhile Binary64.isZero).reverse

def trim (coefficients : List Float) : List Float :=
  if coefficients.length = 4 then coefficients else dropTrailingZeros coefficients

/-- What is dropped are zeros. -/
theorem eq_dropTrailingZeros_append (coefficients : List Float) :
    ∃ zeros : List Float, (∀ z ∈ zeros, Binary64.isZero z = true) ∧
      coefficients = dropTrailingZeros coefficients ++ zeros := by
  cases coefficients with
  | nil => exact ⟨[], by simp, rfl⟩
  | cons first rest =>
    refine ⟨(rest.reverse.takeWhile Binary64.isZero).reverse, ?_, ?_⟩
    · intro z hz
      exact List.all_eq_true.1 List.all_takeWhile z (List.mem_reverse.1 hz)
    · simp only [dropTrailingZeros, List.cons_append, ← List.reverse_append,
        List.takeWhile_append_dropWhile, List.reverse_reverse]

theorem trim_of_length_four {coefficients : List Float} (h : coefficients.length = 4) :
    trim coefficients = coefficients := if_pos h

theorem trim_ne_nil {coefficients : List Float} (h : coefficients ≠ []) :
    trim coefficients ≠ [] := by
  unfold trim
  split
  · exact h
  · cases coefficients with
    | nil => exact absurd rfl h
    | cons first rest => simp [dropTrailingZeros]

end RootFinder.Polynomial
