import Mathlib
import RootFinder.Proofs.Strategy.Pairs

/-! How many roots a strategy finds, over any arithmetic. A closed form finds as many as the degree;
the search finds at most one for each of its seeds. -/
namespace RootFinder

variable {α : Type} [Add α] [Sub α] [Mul α] [Neg α] [Elementary α]
variable {coefficients : List α} {roots : List (Root α)}

namespace Newton

omit [Neg α] in
/-- Each seed adds at most one root to those already known. -/
theorem collect_count {seeds known found : List α}
    (h : collect coefficients seeds known = .ok found) :
    found.length ≤ known.length + seeds.length := by
  induction seeds generalizing known with
  | nil =>
    cases h
    exact Nat.le_refl _
  | cons seed rest ih =>
    unfold collect at h
    split at h
    · cases h
    · have fewer := ih h
      rw [List.length_cons]
      omega
    · rename_i x _
      have count := ih h
      have one : (if isNew known x then known ++ [x] else known).length ≤ known.length + 1 := by
        split
        · simp
        · exact Nat.le_succ _
      rw [List.length_cons]
      omega

theorem search_count (h : search coefficients = .ok roots) : roots.length ≤ 11 := by
  obtain ⟨found, collected, rfl⟩ := map_eq_ok h
  have count := collect_count collected
  simp only [seeds, List.length_append, List.length_map, List.length_cons, List.length_nil] at count
  rw [List.length_map]
  omega

end Newton

/-- A closed form finds as many roots as the degree of the polynomial. -/
theorem Strategy.run_count {strategy : Strategy} (closed : strategy ≠ .newton)
    (h : strategy.run coefficients = .ok roots) : roots.length + 1 = coefficients.length := by
  cases strategy with
  | linear =>
    obtain ⟨degree, x, rfl⟩ := ClosedForm.linear_eq_ok h
    exact degree.symm
  | quadratic =>
    obtain ⟨degree, ⟨x, y, rfl⟩ | ⟨re, im, rfl⟩⟩ := ClosedForm.quadratic_eq_ok h
    · exact degree.symm
    · exact degree.symm
  | cubic =>
    obtain ⟨degree, ⟨x, y, z, rfl⟩ | ⟨x, re, im, rfl⟩⟩ := ClosedForm.cubic_eq_ok h
    · exact degree.symm
    · exact degree.symm
  | newton => exact absurd rfl closed

end RootFinder
