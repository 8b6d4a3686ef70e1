import Mathlib
import RootFinder.Proofs.Binary64.Code
import RootFinder.Proofs.Expression.Vector
import RootFinder.Result

/-! Bounds on what is parsed, for texts in digits of any script: the coefficients are finite, there
is at least one of them, and none belongs to a power above the highest. -/
namespace RootFinder.Expression

structure Term.Bounded (t : Term) : Prop where
  exponent : t.exponent ≤ maxDegree
  finite : Binary64.isFinite t.coefficient = true

variable {finish : Nat} {sign : Option Bool} {ts rest : List Token} {term : Term}

theorem coefficient_finite {n : Numeral} {position : Nat} {c : Float}
    (read : coefficient sign n position = .ok c) : Binary64.isFinite c = true := by
  unfold coefficient at read
  split at read
  · cases read
  · split at read
    · rename_i small
      cases read
      exact Binary64.isFinite_make small
    · cases read

theorem unit_finite (sign : Option Bool) : Binary64.isFinite (unit sign) = true := by
  rcases sign with _ | _ | _ <;> decide +kernel

theorem exponentValue_le {digits : List Char} {position exponent : Nat}
    (read : exponentValue digits position = .ok exponent) : exponent ≤ maxDegree := by
  unfold exponentValue at read
  dsimp only at read
  generalize (if (digits.dropWhile (· = '0')).isEmpty then ['0'] else
    digits.dropWhile (· = '0')) = significant at read
  split at read
  · cases read
  · split at read
    · cases read
    · split at read
      · cases read
      · rename_i small
        cases read
        exact Nat.not_lt.mp small

theorem readExponent_le {exponent : Nat} (read : readExponent finish ts = .ok (exponent, rest)) :
    exponent ≤ maxDegree := by
  unfold readExponent at read
  split at read
  · obtain ⟨value, converted, same⟩ := map_eq_ok read
    cases same
    exact exponentValue_le converted
  · cases read
  · cases read
    decide

theorem readBody_bounded (read : readBody finish sign ts = .ok (term, rest)) : term.Bounded := by
  unfold readBody at read
  split at read
  · split at read
    · cases read
    · rename_i exponent others found
      obtain ⟨c, converted, same⟩ := map_eq_ok read
      cases same
      exact ⟨readExponent_le found, coefficient_finite converted⟩
  · obtain ⟨c, converted, same⟩ := map_eq_ok read
    cases same
    exact ⟨Nat.zero_le _, coefficient_finite converted⟩
  · obtain ⟨⟨exponent, others⟩, found, same⟩ := map_eq_ok read
    cases same
    exact ⟨readExponent_le found, unit_finite sign⟩
  · cases read

theorem readTerm_bounded (read : readTerm finish ts = .ok (term, rest)) : term.Bounded := by
  unfold readTerm at read
  split at read
  · exact readBody_bounded read
  · exact readBody_bounded read

theorem readMore_bounded {terms : List Term} (read : readMore finish ts = .ok terms) :
    ∀ t ∈ terms, t.Bounded := by
  fun_induction readMore finish ts generalizing terms with
  | case1 =>
    cases read
    simp
  | case2 => cases read
  | case3 negative position ts term rest first ih =>
    obtain ⟨others, found, rfl⟩ := map_eq_ok read
    exact List.forall_mem_cons.mpr ⟨readTerm_bounded first, ih found⟩
  | case4 => cases read

theorem terms_bounded {cs : List Char} {found : List Term} (read : terms cs = .ok found) :
    ∀ t ∈ found, t.Bounded := by
  obtain ⟨ts, -, read⟩ := bind_eq_ok read
  unfold readTerms at read
  split at read
  · cases read
  · rename_i term rest first
    obtain ⟨others, more, rfl⟩ := map_eq_ok read
    exact List.forall_mem_cons.mpr ⟨readTerm_bounded first, readMore_bounded more⟩

theorem isFinite_zero : Binary64.isFinite 0 = true := by decide +kernel

theorem coefficientAt_finite {terms : List Term} (bounded : ∀ t ∈ terms, t.Bounded)
    (power : Nat) : Binary64.isFinite (coefficientAt terms power) = true := by
  rcases coefficientAt_cases terms power with ⟨before, t, after, rfl, -, -, value⟩ | ⟨-, value⟩
  · rw [value]
    exact (bounded t (by simp)).finite
  · rw [value]
    exact isFinite_zero

theorem degree_le {terms : List Term} (bounded : ∀ t ∈ terms, t.Bounded) :
    degree terms ≤ maxDegree := by
  rcases degree_attained terms with none | ⟨t, member, -, same⟩
  · rw [none]
    exact Nat.zero_le _
  · rw [← same]
    exact (bounded t member).exponent

structure Accepted (coefficients : List Float) : Prop where
  begun : coefficients ≠ []
  finite : ∀ a ∈ coefficients, Binary64.isFinite a = true
  length : coefficients.length ≤ maxDegree + 1

theorem vector_accepted {terms : List Term} (bounded : ∀ t ∈ terms, t.Bounded) :
    Accepted (vector terms) where
  begun := vector_ne_nil terms
  finite := by
    intro a member
    obtain ⟨power, -, rfl⟩ := List.mem_map.mp member
    exact coefficientAt_finite bounded power
  length := by
    rw [length_vector]
    exact Nat.succ_le_succ (degree_le bounded)

theorem shortcuts_accepted {text : List Char} {v : List Float}
    (found : shortcuts.lookup text = some v) : Accepted v := by
  simp only [shortcuts, List.lookup_cons, List.lookup_nil] at found
  split at found
  · cases found
    exact ⟨by decide, by simp [isFinite_zero], by decide⟩
  · split at found
    · cases found
      exact ⟨by decide, by decide +kernel, by decide⟩
    · cases found

/-- Whatever is parsed is a vector of finite coefficients that is not too long. -/
theorem parse_accepted {cs : List Char} {v : List Float} (parsed : parse cs = .ok v) :
    Accepted v := by
  unfold parse at parsed
  dsimp only at parsed
  split at parsed
  · cases parsed
  · split at parsed
    · rename_i found
      cases parsed
      exact shortcuts_accepted found
    · obtain ⟨found, read, rfl⟩ := map_eq_ok parsed
      exact vector_accepted (terms_bounded read)

end RootFinder.Expression
