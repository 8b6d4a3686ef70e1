import Mathlib.Tactic.Common
import RootFinder.Proofs.Solution.Outcome

/-! Which failure is reported. What the parser refuses is reported as it is; once there are
coefficients, a single one is a constant, and all else that can fail is internal. -/
namespace RootFinder

theorem short_of_select {length : Nat} (none : Strategy.select? length = none) : length < 2 := by
  by_contra long
  rw [Strategy.select?, if_neg (by omega)] at none
  split at none
  · cases none
  · split at none
    · cases none
    · split at none
      · cases none
      · cases none

theorem kind_findRoots {coefficients : List Float} {failure : Failure}
    (h : findRoots coefficients = .error failure) :
    failure.notice.kind = if coefficients.length < 2 then .constant else .internal := by
  unfold findRoots at h
  split at h
  · rename_i none
    cases h
    rw [if_pos (short_of_select none)]
    rfl
  · rename_i solver select
    have long := two_le_of_select select
    split at h
    · cases h
      rw [if_neg (Nat.not_lt.mpr long)]
      rfl
    · cases h

theorem kind_present {solver : Strategy} {found : List (Root Float)} {failure : Failure}
    (h : present solver found = .error failure) : failure.notice.kind = .internal := by
  unfold present at h
  split at h
  · cases h
    rfl
  · split at h
    · cases h
      rfl
    · split at h
      · cases h
      · cases h
        rfl

theorem solve_unread {submitted : Json} {e : Expression.Error}
    (read : Expression.parseJson submitted = .error e) :
    solve submitted = Solution.unsolved submitted [] none .empty (.expression e) := by
  unfold solve
  rw [read]

variable {submitted : Json} {parsed : List Float}

/-- What can become of a value that is read. -/
theorem solve_read (read : Expression.parseJson submitted = .ok parsed) :
    (solve submitted).coefficients = Polynomial.trim parsed ∧
      ((∃ failure, findRoots (Polynomial.trim parsed) = .error failure ∧
          (solve submitted).notice? = some failure.notice) ∨
        ∃ solver found, findRoots (Polynomial.trim parsed) = .ok (solver, found) ∧
          ((∃ failure, present solver found = .error failure ∧
              (solve submitted).notice? = some failure.notice) ∨
            (solve submitted).notice? = none)) := by
  have outcome := solve_outcome submitted
  generalize solve submitted = s at outcome
  cases outcome with
  | unread other =>
    rw [read] at other
    cases other
  | unfound other find =>
    rw [read] at other
    cases other
    exact ⟨rfl, .inl ⟨_, find, rfl⟩⟩
  | unpresented other find presented =>
    rw [read] at other
    cases other
    exact ⟨rfl, .inr ⟨_, _, find, .inl ⟨_, presented, rfl⟩⟩⟩
  | solved other find presented =>
    rw [read] at other
    cases other
    exact ⟨rfl, .inr ⟨_, _, find, .inr rfl⟩⟩

/-- The kind of failure after the parsing. -/
theorem kind_solve (read : Expression.parseJson submitted = .ok parsed) {notice : Notice}
    (failed : (solve submitted).notice? = some notice) :
    notice.kind = if (Polynomial.trim parsed).length < 2 then .constant else .internal := by
  obtain ⟨-, outcome⟩ := solve_read read
  rcases outcome with ⟨failure, find, same⟩ | ⟨solver, found, find, reported⟩
  · rw [failed] at same
    cases same
    exact kind_findRoots find
  · have long := two_le_of_select (findRoots_eq_ok find).1
    rw [if_neg (Nat.not_lt.mpr long)]
    rcases reported with ⟨failure, presented, same⟩ | none
    · rw [failed] at same
      cases same
      exact kind_present presented
    · rw [failed] at none
      cases none

/-- A single coefficient is the constant case, and only that. -/
theorem constant_iff (read : Expression.parseJson submitted = .ok parsed) :
    (∃ notice, (solve submitted).notice? = some notice ∧ notice.kind = .constant) ↔
      (Polynomial.trim parsed).length < 2 := by
  constructor
  · rintro ⟨notice, failed, constant⟩
    rw [kind_solve read failed] at constant
    by_contra long
    rw [if_neg long] at constant
    cases constant
  · intro short
    obtain ⟨-, outcome⟩ := solve_read read
    rcases outcome with ⟨failure, find, same⟩ | ⟨solver, found, find, -⟩
    · refine ⟨failure.notice, same, ?_⟩
      rw [kind_findRoots find, if_pos short]
    · have long := two_le_of_select (findRoots_eq_ok find).1
      omega

end RootFinder
