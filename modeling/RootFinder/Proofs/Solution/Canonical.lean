import Mathlib
import RootFinder.Proofs.Polynomial.RoundTrip
import RootFinder.Proofs.Polynomial.Trimming
import RootFinder.Proofs.Solution.Kinds
import RootFinder.Proofs.Solution.Newton
import RootFinder.Proofs.Strategy.Leading

/-! Solving the text of a solution. The text has no leading zeros. Without any to lose, it stands
for the coefficients that were solved up to the signs of zeros, and these change no root. -/
namespace RootFinder

open Binary64 (isZero respects_same)
open Expression (Accepted parse)
open RootFinder.Polynomial (Same core format text trim)

section Trimming

variable {a b : List Float}

theorem dropWhile_same (same : List.Forall₂ Same a b) :
    List.Forall₂ Same (a.dropWhile isZero) (b.dropWhile isZero) := by
  induction same with
  | nil => exact .nil
  | @cons c d a b head tail ih =>
    by_cases zero : isZero d = true
    · rw [List.dropWhile_cons_of_pos (head.isZero_eq.trans zero), List.dropWhile_cons_of_pos zero]
      exact ih
    · rw [List.dropWhile_cons_of_neg (head.isZero_eq ▸ zero), List.dropWhile_cons_of_neg zero]
      exact .cons head tail

theorem dropTrailingZeros_same (same : List.Forall₂ Same a b) :
    List.Forall₂ Same (Polynomial.dropTrailingZeros a) (Polynomial.dropTrailingZeros b) := by
  cases same with
  | nil => exact .nil
  | cons head tail => exact .cons head (List.rel_reverse (dropWhile_same (List.rel_reverse tail)))

theorem trim_same (same : List.Forall₂ Same a b) : List.Forall₂ Same (trim a) (trim b) := by
  rw [trim, trim, same.length_eq]
  split
  · exact same
  · exact dropTrailingZeros_same same

end Trimming

theorem core_of_led {coefficients : List Float} (led : Led coefficients) :
    core coefficients = coefficients := by
  cases coefficients with
  | nil => rfl
  | cons c rest =>
    have other : isZero c = false := led c rfl
    have kept : (c :: rest).all isZero = false := by rw [List.all_cons, other, Bool.false_and]
    rw [Polynomial.core_of_kept kept, List.dropWhile_cons_of_neg (Bool.eq_false_iff.mp other)]

/-- What a submitted value stands for could be parsed, if it is read at all. -/
theorem parseJson_accepted {submitted : Json} {parsed : List Float}
    (read : Expression.parseJson submitted = .ok parsed) : Accepted parsed := by
  obtain ⟨cs, -, parses⟩ := bind_eq_ok read
  exact Expression.parse_accepted parses

/-- Roots that are found and presented are the solution. -/
theorem solve_of_found {submitted : Json} {parsed : List Float} {solver : Strategy}
    {found rounded : List (Root Float)} (read : Expression.parseJson submitted = .ok parsed)
    (find : findRoots (trim parsed) = .ok (solver, found))
    (presented : present solver found = .ok rounded) :
    (solve submitted).ok = true ∧ (solve submitted).roots = rounded := by
  unfold solve
  simp only [read, find, presented]
  exact ⟨rfl, rfl⟩

/-- Coefficients that are the same numbers are solved alike. -/
theorem solve_same {submitted : Json} {parsed coefficients : List Float} {solver : Strategy}
    {found rounded : List (Root Float)} (read : Expression.parseJson submitted = .ok parsed)
    (same : List.Forall₂ Same (trim parsed) coefficients)
    (find : findRoots coefficients = .ok (solver, found))
    (presented : present solver found = .ok rounded) :
    (solve submitted).ok = true ∧ (solve submitted).roots = rounded := by
  have agree := respects_same.findRoots same
  rw [find] at agree
  generalize again : findRoots (trim parsed) = result at agree
  cases agree with
  | @ok pair _ related =>
    obtain ⟨other, others⟩ := pair
    obtain ⟨rfl, roots⟩ := related
    refine solve_of_found read again ?_
    rw [Binary64.present_related roots]
    exact presented

/-- The text of a solution is solved from the same coefficients, without the leading zeros. Only
coefficients for the search can have some; without any the roots are the same in the same order. -/
theorem solve_formatted {submitted : Json} (ok : (solve submitted).ok = true) :
    ∃ text, (solve submitted).formatted? = some text ∧
      List.Forall₂ Same (solve (.string text)).coefficients
        (trim (core (solve submitted).coefficients)) ∧
      ((solve submitted).strategy ≠ some .newton → Led (solve submitted).coefficients) ∧
      (Led (solve submitted).coefficients → (solve (.string text)).ok = true ∧
        (solve (.string text)).roots = (solve submitted).roots) := by
  obtain ⟨parsed, solver, found, read, coefficients, strategy, find, presented⟩ := solved_of_ok ok
  have accepted := Polynomial.trim_accepted (parseJson_accepted read)
  obtain ⟨v, parses, same⟩ := Polynomial.parse_text_accepted accepted
  have again : Expression.parseJson (.string (format (trim parsed))) = .ok v := by
    change parse (format (trim parsed)).toList = .ok v
    rw [format, String.toList_ofList]
    exact parses
  rw [coefficients, strategy]
  refine ⟨format (trim parsed), ?_, ?_, ?_, ?_⟩
  · rw [Solution.formatted?, coefficients, List.isEmpty_eq_false_iff.mpr accepted.begun]
    rfl
  · rw [(solve_read again).1]
    exact trim_same same
  · intro other
    have closed : solver ≠ .newton := fun newton => other (congrArg some newton)
    exact Strategy.run_led closed (findRoots_eq_ok find).2
  · intro led
    have trimmed := trim_same same
    rw [core_of_led led, Polynomial.trim_trim] at trimmed
    exact solve_same again trimmed find presented

/-- A zero in the middle that loses its sign. -/
theorem solve_formatted_quadratic : (solve (.string "x^2 - 0x - 4")).ok = true ∧
    ∃ text, (solve (.string "x^2 - 0x - 4")).formatted? = some text ∧
      (solve (.string text)).roots = (solve (.string "x^2 - 0x - 4")).roots := by
  have ok : (solve (.string "x^2 - 0x - 4")).ok = true := by decide +kernel
  have quadratic : (solve (.string "x^2 - 0x - 4")).strategy ≠ some .newton := by decide +kernel
  obtain ⟨text, formatted, -, led, solved⟩ := solve_formatted ok
  exact ⟨ok, text, formatted, (solved (led quadratic)).2⟩

/-- With a leading zero the search finds roots, of what is a constant without it. -/
theorem not_solve_formatted : ¬ ∀ expression text, (solve (.string expression)).ok = true →
    (solve (.string expression)).formatted? = some text →
      (solve (.string text)).ok = true ∧
        (solve (.string text)).roots.Perm (solve (.string expression)).roots := by
  intro solved
  have parses : Expression.parseJson (.string "0x^4 + 0.00000000001") =
      .ok [0, 0, 0, 0, 1e-11] := by
    decide +kernel
  -- the polynomial is nearly zero at every seed, at zero among them
  have small : Newton.Small (trim [0, 0, 0, 0, 1e-11]) 0 := by decide +kernel
  have zero : (0 : Float) ∈ Newton.seeds :=
    List.mem_append_right _ (List.mem_map.mpr ⟨0, List.mem_cons_self, by decide +kernel⟩)
  have ok := solve_converges parses (by decide +kernel) zero ⟨0, by decide, .refl 0, small⟩
  have formatted : (solve (.string "0x^4 + 0.00000000001")).formatted? = some "0.00000000001" := by
    rw [Solution.formatted?, (solve_read parses).1]
    decide +kernel
  have constant : (solve (.string "0.00000000001")).ok = false := by decide +kernel
  obtain ⟨again, -⟩ := solved _ _ ok formatted
  rw [constant] at again
  cases again

end RootFinder
