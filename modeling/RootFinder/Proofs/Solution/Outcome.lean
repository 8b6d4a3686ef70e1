import Mathlib
import RootFinder.Proofs.Binary64.Code
import RootFinder.Proofs.Strategy.Count
import RootFinder.Solution

/-! The ways to end. The solver stops where parsing, the search for roots or their presentation
fails, or it has roots; a solution is one of these four and nothing else. -/
namespace RootFinder

open Binary64 (isFinite parts)

/-- A part that may be reported: a finite number, and not the negative zero. -/
def IsReported (x : Float) : Prop := isFinite x = true ∧ parts x ≠ .finite true 0

def Root.IsReported : Root Float → Prop
  | .real value => RootFinder.IsReported value
  | .complex re im => RootFinder.IsReported re ∧ RootFinder.IsReported im

theorem isReported_roundPart {digits : Int} {x y : Float} (finite : isFinite y = true)
    (rounded : Root.roundPart digits x = .ok y) : IsReported y := by
  obtain ⟨z, -, rfl⟩ := map_eq_ok rounded
  refine ⟨finite, ?_⟩
  intro negative
  unfold Binary64.foldZero at negative
  split at negative
  · rw [Binary64.parts_make false (by decide)] at negative
    cases negative
  · rename_i other
    exact other (Binary64.isZero_iff.mpr ⟨true, negative⟩)

theorem isReported_round {digits : Int} {root rounded : Root Float}
    (finite : rounded.isFinite = true) (h : root.round digits = .ok rounded) :
    rounded.IsReported := by
  cases root with
  | real value =>
    obtain ⟨y, part, rfl⟩ := map_eq_ok h
    exact isReported_roundPart finite part
  | complex re im =>
    obtain ⟨a, first, h⟩ := bind_eq_ok h
    obtain ⟨b, second, h⟩ := bind_eq_ok h
    cases h
    obtain ⟨left, right⟩ := Bool.and_eq_true_iff.mp finite
    exact ⟨isReported_roundPart left first, isReported_roundPart right second⟩

/-- Roots that are presented are the rounded ones, all of them fit to be reported. -/
theorem present_eq_ok {solver : Strategy} {found rounded : List (Root Float)}
    (h : present solver found = .ok rounded) :
    found.mapM (Root.round places) = .ok rounded ∧ rounded ≠ [] ∧
      ∀ root ∈ rounded, root.IsReported := by
  unfold present at h
  split at h
  · cases h
  · rename_i begun
    split at h
    · cases h
    · rename_i all same
      split at h
      · rename_i finite
        cases h
        refine ⟨same, ?_, ?_⟩
        · rintro rfl
          rw [List.forall₂_nil_right_iff.mp (mapM_eq_ok same)] at begun
          exact begun rfl
        · intro root member
          obtain ⟨source, -, rounds⟩ := mem_mapM same member
          exact isReported_round (List.all_eq_true.mp finite root member) rounds
      · cases h

theorem findRoots_eq_ok {α : Type} [Add α] [Sub α] [Mul α] [Neg α] [Elementary α]
    {coefficients : List α} {solver : Strategy} {found : List (Root α)}
    (h : findRoots coefficients = .ok (solver, found)) :
    Strategy.select? coefficients.length = some solver ∧ solver.run coefficients = .ok found := by
  unfold findRoots at h
  split at h
  · cases h
  · rename_i chosen select
    split at h
    · cases h
    · rename_i roots run
      cases h
      exact ⟨select, run⟩

theorem two_le_of_select {length : Nat} {solver : Strategy}
    (select : Strategy.select? length = some solver) : 2 ≤ length := by
  by_contra short
  rw [Strategy.select?, if_pos (by omega)] at select
  cases select

inductive Outcome (submitted : Json) : Solution → Prop
  | unread {e : Expression.Error} (read : Expression.parseJson submitted = .error e) :
      Outcome submitted (Solution.unsolved submitted [] none .empty (.expression e))
  | unfound {parsed : List Float} {failure : Failure}
      (read : Expression.parseJson submitted = .ok parsed)
      (find : findRoots (Polynomial.trim parsed) = .error failure) :
      Outcome submitted (Solution.unsolved submitted (Polynomial.trim parsed) none
        (Solution.opening parsed (Polynomial.trim parsed)) failure)
  | unpresented {parsed : List Float} {solver : Strategy} {found : List (Root Float)}
      {failure : Failure} (read : Expression.parseJson submitted = .ok parsed)
      (find : findRoots (Polynomial.trim parsed) = .ok (solver, found))
      (presented : present solver found = .error failure) :
      Outcome submitted (Solution.unsolved submitted (Polynomial.trim parsed) (some solver)
        ((Solution.opening parsed (Polynomial.trim parsed)).record
          (.dispatched solver ((Polynomial.trim parsed).length - 1))) failure)
  | solved {parsed : List Float} {solver : Strategy} {found rounded : List (Root Float)}
      (read : Expression.parseJson submitted = .ok parsed)
      (find : findRoots (Polynomial.trim parsed) = .ok (solver, found))
      (presented : present solver found = .ok rounded) :
      Outcome submitted ⟨submitted, Polynomial.trim parsed, some solver,
        ((Solution.opening parsed (Polynomial.trim parsed)).record
          (.dispatched solver ((Polynomial.trim parsed).length - 1))).record
            (.rooted rounded.length), .ok rounded⟩

theorem solve_outcome (submitted : Json) : Outcome submitted (solve submitted) := by
  unfold solve
  split
  · rename_i read
    exact .unread read
  · rename_i read
    dsimp only
    split
    · rename_i find
      exact .unfound read find
    · rename_i find
      split
      · rename_i presented
        exact .unpresented read find presented
      · rename_i presented
        exact .solved read find presented

/-- A solution with roots, and what it was solved from. -/
theorem solved_of_ok {submitted : Json} (ok : (solve submitted).ok = true) :
    ∃ parsed solver found, Expression.parseJson submitted = .ok parsed ∧
      (solve submitted).coefficients = Polynomial.trim parsed ∧
      (solve submitted).strategy = some solver ∧
      findRoots (Polynomial.trim parsed) = .ok (solver, found) ∧
      present solver found = .ok (solve submitted).roots := by
  have outcome := solve_outcome submitted
  generalize solve submitted = s at outcome ok
  cases outcome with
  | unread | unfound | unpresented => cases ok
  | solved read find presented => exact ⟨_, _, _, read, rfl, rfl, find, presented⟩

end RootFinder
