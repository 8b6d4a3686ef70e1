import Mathlib
import RootFinder.Proofs.Polynomial.Formal
import RootFinder.Proofs.Polynomial.RoundTrip
import RootFinder.Proofs.Polynomial.Trimming
import RootFinder.Proofs.Service.Requests
import RootFinder.Proofs.Solution.Kinds

/-! The coefficients that are parsed and those that are solved. The solver drops the roots at zero
of all but cubics, which decides what counts as a constant; and each service writes the coefficients
it speaks of so that they are read back without their leading zeros. -/
namespace RootFinder

open Binary64 (isZero value)
open Expression (Accepted parse)
open RootFinder.Polynomial (Same core format formal text trim)

/-- A vector and what trimming leaves of it: the roots at zero are gone, except those of a cubic. -/
structure Trims (parsed solved : List Float) : Prop where
  split : ∃ zeros : List Float, (∀ z ∈ zeros, isZero z = true) ∧ parsed = solved ++ zeros ∧
    (parsed.length = 4 → zeros = []) ∧
    formal (parsed.map value) = .X ^ zeros.length * formal (solved.map value)
  ended : parsed.length ≠ 4 →
    solved.length = 1 ∨ ∃ last, solved.getLast? = some last ∧ isZero last = false
  fixed : trim solved = solved

theorem trims_trim {parsed : List Float} (begun : parsed ≠ []) : Trims parsed (trim parsed) where
  split := by
    obtain ⟨zeros, zero, split, cubic⟩ := Polynomial.eq_trim_append parsed
    refine ⟨zeros, zero, split, cubic, ?_⟩
    conv_lhs => rw [split]
    exact Polynomial.formal_values_append zero
  ended := Polynomial.trim_ended begun
  fixed := Polynomial.trim_trim parsed

namespace Service

/-- The text in an answer is read back as the coefficients without their leading zeros. -/
def Answer.Rereads (a : Answer) (coefficients : List Float) : Prop :=
  ∃ text v, a.formatted? = some text ∧ parse text.toList = .ok v ∧
    List.Forall₂ Same v (core coefficients)

theorem rereads_of_accepted {a : Answer} {coefficients : List Float}
    (accepted : Accepted coefficients) (written : a.formatted? = some (format coefficients)) :
    a.Rereads coefficients := by
  obtain ⟨v, parsed, same⟩ := Polynomial.parse_text_accepted accepted
  refine ⟨format coefficients, v, written, ?_, same⟩
  rw [format, String.toList_ofList]
  exact parsed

/-- What is solved is what was parsed without the zeros at its end, unless that is a cubic, and a
constant is reported exactly when a single coefficient is left. Both services write their
coefficients so that these are read back. -/
theorem solve_trims (recording : Option Recording) {expression : String} {parsed : List Float}
    (read : parse expression.toList = .ok parsed) :
    Trims parsed (solve (.string expression)).coefficients ∧
    ((∃ notice, (solve (.string expression)).notice? = some notice ∧ notice.kind = .constant) ↔
      parsed.length = 1 ∨ (parsed.length ≠ 4 ∧ ∀ c ∈ parsed.tail, isZero c = true)) ∧
    (answer recording (Route.parse.submit expression)).Rereads parsed ∧
    (answer recording (Route.solve.submit expression)).Rereads
      (solve (.string expression)).coefficients := by
  have accepted := Expression.parse_accepted read
  have submitted : Expression.parseJson (.string expression) = .ok parsed := read
  obtain ⟨coefficients, -⟩ := solve_read submitted
  refine ⟨?_, ?_, ?_, ?_⟩
  · rw [coefficients]
    exact trims_trim accepted.begun
  · rw [constant_iff submitted]
    exact Polynomial.trim_constant_iff accepted.begun
  · exact rereads_of_accepted accepted (formatted?_parse recording expression read)
  · have trimmed := Polynomial.trim_accepted accepted
    have begun := List.isEmpty_eq_false_iff.mpr trimmed.begun
    rw [coefficients]
    apply rereads_of_accepted trimmed
    rw [formatted?_solve, Solution.formatted?, coefficients, begun]
    rfl

/-- The square alone is a constant to the solver. -/
theorem solve_trims_square : parse "x^2".toList = .ok [1, 0, 0] ∧
    Trims [1, 0, 0] (solve (.string "x^2")).coefficients ∧
    ∃ notice, (solve (.string "x^2")).notice? = some notice ∧ notice.kind = .constant := by
  have read : parse "x^2".toList = .ok [1, 0, 0] := by decide +kernel
  have zero : ∀ c ∈ [0, 0], isZero c = true := by decide +kernel
  obtain ⟨trims, constant, -⟩ := solve_trims none read
  exact ⟨read, trims, constant.mpr (.inr ⟨by decide, zero⟩)⟩

end Service

end RootFinder
