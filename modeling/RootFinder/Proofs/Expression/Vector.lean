import Mathlib
import RootFinder.Expression

/-! The vector of a list of terms: its length comes from the highest exponent of the unknown, and
each of its entries is what the last term of that exponent has. -/
namespace RootFinder.Expression

private theorem degree_from (terms : List Term) (start : Nat) :
    let highest := terms.foldl
      (fun highest t => if t.hasUnknown then max highest t.exponent else highest) start
    start ≤ highest ∧ (∀ t ∈ terms, t.hasUnknown = true → t.exponent ≤ highest) ∧
      (highest = start ∨ ∃ t ∈ terms, t.hasUnknown = true ∧ t.exponent = highest) := by
  induction terms generalizing start with
  | nil => simp
  | cons t terms ih =>
    simp only [List.foldl_cons]
    by_cases unknown : t.hasUnknown = true
    · rw [if_pos unknown]
      obtain ⟨least, bound, attained⟩ := ih (max start t.exponent)
      refine ⟨le_trans (le_max_left _ _) least, ?_, ?_⟩
      · rintro u (_ | ⟨_, member⟩) has
        · exact le_trans (le_max_right _ _) least
        · exact bound u member has
      · rcases attained with same | ⟨u, member, has, same⟩
        · rcases le_total t.exponent start with below | above
          · exact .inl (same.trans (max_eq_left below))
          · exact .inr ⟨t, List.mem_cons_self, unknown, (same.trans (max_eq_right above)).symm⟩
        · exact .inr ⟨u, List.mem_cons_of_mem _ member, has, same⟩
    · rw [if_neg unknown]
      obtain ⟨least, bound, attained⟩ := ih start
      refine ⟨least, ?_, ?_⟩
      · rintro u (_ | ⟨_, member⟩) has
        · exact absurd has unknown
        · exact bound u member has
      · rcases attained with same | ⟨u, member, has, same⟩
        · exact .inl same
        · exact .inr ⟨u, List.mem_cons_of_mem _ member, has, same⟩

variable {terms : List Term}

theorem le_degree {t : Term} (member : t ∈ terms) (unknown : t.hasUnknown = true) :
    t.exponent ≤ degree terms := (degree_from terms 0).2.1 t member unknown

theorem degree_attained (terms : List Term) :
    degree terms = 0 ∨ ∃ t ∈ terms, t.hasUnknown = true ∧ t.exponent = degree terms :=
  (degree_from terms 0).2.2

/-- The last term of an exponent counts; without any the coefficient is zero. -/
theorem coefficientAt_cases (terms : List Term) (power : Nat) :
    (∃ before t after, terms = before ++ t :: after ∧ (∀ u ∈ after, u.exponent ≠ power) ∧
      t.exponent = power ∧ coefficientAt terms power = t.coefficient) ∨
    ((∀ t ∈ terms, t.exponent ≠ power) ∧ coefficientAt terms power = 0) := by
  unfold coefficientAt
  cases found : terms.reverse.find? (·.exponent == power) with
  | none =>
    refine .inr ⟨?_, rfl⟩
    intro t member same
    exact List.find?_eq_none.mp found t (List.mem_reverse.mpr member) (beq_iff_eq.mpr same)
  | some t =>
    obtain ⟨same, after, before, split, others⟩ := List.find?_eq_some_iff_append.mp found
    refine .inl ⟨before.reverse, t, after.reverse, ?_, ?_, beq_iff_eq.mp same, rfl⟩
    · rw [← List.reverse_reverse terms, split]
      simp
    · intro u member equal
      have other := others u (List.mem_reverse.mp member)
      rw [equal, beq_self_eq_true] at other
      cases other

theorem coefficientAt_cons_of_ne {t : Term} {power : Nat} (other : t.exponent ≠ power) :
    coefficientAt (t :: terms) power = coefficientAt terms power := by
  have skipped : [t].find? (·.exponent == power) = none := by
    simpa using other
  unfold coefficientAt
  rw [List.reverse_cons, List.find?_append, skipped, Option.or_none]

theorem coefficientAt_of_absent {power : Nat} (absent : ∀ t ∈ terms, t.exponent ≠ power) :
    coefficientAt terms power = 0 := by
  rcases coefficientAt_cases terms power with ⟨before, t, after, rfl, -, same, -⟩ | ⟨-, zero⟩
  · exact absurd same (absent t (by simp))
  · exact zero

theorem coefficientAt_cons_self {t : Term} (absent : ∀ u ∈ terms, u.exponent ≠ t.exponent) :
    coefficientAt (t :: terms) t.exponent = t.coefficient := by
  have none : terms.reverse.find? (·.exponent == t.exponent) = none := by
    apply List.find?_eq_none.mpr
    intro u member
    simpa using absent u (List.mem_reverse.mp member)
  have first : [t].find? (·.exponent == t.exponent) = some t := by simp
  unfold coefficientAt
  rw [List.reverse_cons, List.find?_append, none, Option.none_or, first]

/-- The entry at a power, counted from the end of the vector. -/
theorem getElem?_vector {power : Nat} (below : power ≤ degree terms) :
    (vector terms)[degree terms - power]? = some (coefficientAt terms power) := by
  have within : degree terms - power < (List.range (degree terms + 1)).length := by
    rw [List.length_range]
    omega
  have place : degree terms + 1 - 1 - (degree terms - power) = power := by omega
  rw [vector, List.getElem?_map, List.getElem?_reverse within, List.length_range,
    List.getElem?_range (by omega), place]
  rfl

end RootFinder.Expression
