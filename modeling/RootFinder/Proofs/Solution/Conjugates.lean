import Mathlib
import RootFinder.Proofs.Binary64.Negation
import RootFinder.Proofs.Root.Rounding

/-! Conjugates. The closed forms list complex roots as a pair of conjugates, and rounding keeps it one,
since opposite numbers are rounded to opposite numbers. -/
namespace RootFinder

open Binary64 (isFinite make parts roundRank)
open RootFinder.Polynomial (Same)

/-- Opposite numbers are rounded to opposite numbers. -/
theorem roundPart_neg {digits : Int} {x y y' : Float} (finite : isFinite y = true)
    (first : Root.roundPart digits x = .ok y) (second : Root.roundPart digits (-x) = .ok y') :
    Same y' (-y) := by
  cases same : parts x with
  | finite negative rank =>
    have opposite : parts (-x) = .finite (!negative) rank := by
      rw [Binary64.parts_neg, same]
      rfl
    obtain ⟨small, rfl⟩ := (roundPart_eq_ok same).mp first
    obtain ⟨-, rfl⟩ := (roundPart_eq_ok opposite).mp second
    rw [Binary64.neg_make _ small]
    by_cases zero : roundRank digits rank = 0
    · have plus (sign : Bool) : Binary64.isZero (make sign 0) = true :=
        Binary64.isZero_iff.mpr ⟨sign, Binary64.parts_make sign (by decide)⟩
      rw [zero]
      exact .inr ⟨plus _, plus _⟩
    · rw [bne_iff_ne.mpr zero, Bool.and_true, Bool.and_true]
      exact .inl rfl
  | infinite | undefined =>
    -- what is not finite is not rounded, so it would have been reported as it is
    rw [Root.roundPart, Binary64.round, same] at first
    cases first
    have kept : Binary64.foldZero x = x := by
      rw [Binary64.foldZero, Binary64.isZero, same]
      rfl
    rw [kept, isFinite, same] at finite
    cases finite

theorem round_reals {digits : Int} {values : List Float} {rounded : List (Root Float)}
    (h : (values.map Root.real).mapM (Root.round digits) = .ok rounded) :
    ∃ values' : List Float, rounded = values'.map .real := by
  obtain ⟨values', -, same⟩ := mapM_reals h fun root member result rounds => by
    obtain ⟨value, -, rfl⟩ := List.mem_map.mp member
    obtain ⟨y, -, rfl⟩ := map_eq_ok rounds
    exact ⟨y, rfl⟩
  exact ⟨values', same⟩

/-- Real roots and a pair of conjugates stay such when they are rounded. -/
theorem round_paired {digits : Int} {found rounded : List (Root Float)}
    (paired : Paired (fun im im' => im' = -im) found)
    (h : found.mapM (Root.round digits) = .ok rounded)
    (reported : ∀ root ∈ rounded, root.IsReported) :
    Paired (fun im im' => Same im' (-im)) rounded := by
  cases paired with
  | reals values =>
    obtain ⟨values', rfl⟩ := round_reals h
    exact .reals values'
  | @conjugates values re im im' opposite =>
    subst opposite
    rw [List.mapM_append] at h
    obtain ⟨front, first, h⟩ := bind_eq_ok h
    obtain ⟨back, last, h⟩ := bind_eq_ok h
    cases h
    obtain ⟨values', rfl⟩ := round_reals first
    rcases mapM_eq_ok last with _ | ⟨upper, _ | ⟨lower, ⟨⟩⟩⟩
    obtain ⟨a, real, upper⟩ := bind_eq_ok upper
    obtain ⟨b, above, upper⟩ := bind_eq_ok upper
    obtain ⟨a', real', lower⟩ := bind_eq_ok lower
    obtain ⟨b', below, lower⟩ := bind_eq_ok lower
    cases upper
    cases lower
    obtain rfl : a = a' := Except.ok.inj (real.symm.trans real')
    have finite : isFinite b = true :=
      (reported _ (List.mem_append_right _ List.mem_cons_self)).2.1
    exact .conjugates values' (roundPart_neg finite above below)

/-- The roots of a solution; there are none where it failed. -/
theorem solve_paired (submitted : Json) :
    Paired (fun im im' => Same im' (-im)) (solve submitted).roots ∧
      ((solve submitted).strategy = some .quadratic ∨ (solve submitted).strategy = some .cubic ∨
        ∃ values : List Float, (solve submitted).roots = values.map .real) := by
  have outcome := solve_outcome submitted
  generalize solve submitted = s at outcome
  cases outcome with
  | unread | unfound | unpresented => exact ⟨.reals [], .inr (.inr ⟨[], rfl⟩)⟩
  | @solved parsed solver found rounded read find presented =>
    obtain ⟨paired, source⟩ := Strategy.run_paired (findRoots_eq_ok find).2
    obtain ⟨rounds, -, reported⟩ := present_eq_ok presented
    refine ⟨round_paired paired rounds reported, ?_⟩
    rcases source with rfl | rfl | ⟨values, rfl⟩
    · exact .inl rfl
    · exact .inr (.inl rfl)
    · exact .inr (.inr (round_reals rounds))

/-- Complex roots are reported in conjugate pairs: the roots are real numbers, or real numbers and two
complex ones at the end, of one real part and of opposite imaginary parts. So the conjugate of each
complex root is reported too. Only a quadratic or a cubic has complex roots reported; those that the
search finds are real. -/
theorem solve_conjugates (submitted : Json) :
    Paired (fun im im' => Same im' (-im)) (solve submitted).roots ∧
    (∀ re im : Float, .complex re im ∈ (solve submitted).roots →
      ((solve submitted).strategy = some .quadratic ∨
        (solve submitted).strategy = some .cubic) ∧
      ∃ im', .complex re im' ∈ (solve submitted).roots ∧ Same im' (-im)) ∧
    ((solve submitted).strategy = some .newton →
      ∃ values : List Float, (solve submitted).roots = values.map .real) := by
  obtain ⟨paired, source⟩ := solve_paired submitted
  have conjugate (im im' : Float) (h : Same im' (-im)) : Same im (-im') := Binary64.same_neg_comm h
  refine ⟨paired, fun re im member => ⟨?_, paired.closed conjugate member⟩, fun newton => ?_⟩
  · rcases source with quadratic | cubic | ⟨values, reals⟩
    · exact .inl quadratic
    · exact .inr cubic
    · rw [reals] at member
      obtain ⟨value, -, other⟩ := List.mem_map.mp member
      cases other
  · rcases source with quadratic | cubic | reals
    · cases newton.symm.trans quadratic
    · cases newton.symm.trans cubic
    · exact reals

example : (solve (.string "2x-x^2-5")).roots = [.complex 1 (-2), .complex 1 2] := by
  decide +kernel

end RootFinder
