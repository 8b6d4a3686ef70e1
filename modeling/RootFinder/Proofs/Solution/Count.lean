import Mathlib
import RootFinder.Proofs.Solution.Newton
import RootFinder.Proofs.Solution.Outcome
import RootFinder.Service

/-! The number of roots and the degree. A closed form finds exactly as many as the degree says; the
search finds at most one for each of its eleven seeds, which may be more. -/
namespace RootFinder

/-- The search is for the vectors that no closed form is for. -/
theorem select_newton_iff {length : Nat} {solver : Strategy}
    (select : Strategy.select? length = some solver) : solver = .newton ↔ 5 ≤ length := by
  unfold Strategy.select? at select
  split_ifs at select <;> cases select <;> simp <;> omega

section

variable {α : Type} [Add α] [Sub α] [Mul α] [Neg α] [Elementary α]

theorem closed_count {coefficients : List α} {solver : Strategy} {found : List (Root α)}
    (short : coefficients.length ≤ 4) (h : findRoots coefficients = .ok (solver, found)) :
    found.length = coefficients.length - 1 := by
  obtain ⟨select, run⟩ := findRoots_eq_ok h
  have closed : solver ≠ .newton := fun same => by
    have long := (select_newton_iff select).mp same
    omega
  have count := Strategy.run_count closed run
  omega

theorem found_le {coefficients : List α} {solver : Strategy} {found : List (Root α)}
    (long : 5 ≤ coefficients.length) (h : findRoots coefficients = .ok (solver, found)) :
    found.length ≤ 11 := by
  obtain ⟨select, run⟩ := findRoots_eq_ok h
  obtain rfl := (select_newton_iff select).mpr long
  exact Newton.search_count run

end

/-- The check of a solution counts the roots found and those expected. -/
theorem checkOf_counts {s : Solution} {check : Verification Float}
    (h : Service.checkOf s = some check) :
    s.ok = true ∧ check.expected = s.coefficients.length - 1 ∧ check.found = s.roots.length := by
  unfold Service.checkOf at h
  split at h
  · rename_i ok
    cases same : s.coefficients with
    | nil =>
      rw [same] at h
      cases h
    | cons first rest =>
      rw [same] at h
      cases h
      exact ⟨ok, rfl, rfl⟩
  · cases h

/-- A solution has as many roots as were found for its coefficients. -/
theorem solve_counts {submitted : Json} (ok : (solve submitted).ok = true) :
    ∃ solver found, findRoots (solve submitted).coefficients = .ok (solver, found) ∧
      (solve submitted).roots.length = found.length := by
  obtain ⟨parsed, solver, found, -, coefficients, -, find, presented⟩ := solved_of_ok ok
  rw [coefficients]
  exact ⟨solver, found, find, (mapM_eq_ok (present_eq_ok presented).1).length_eq.symm⟩

/-- A closed form finds as many roots as the degree, and the search at most eleven, which is not more
than the degree from eleven on. The check of a solution counts accordingly. -/
theorem roots_count :
    (∀ (coefficients : List Float) solver found, findRoots coefficients = .ok (solver, found) →
      (coefficients.length ≤ 4 → found.length = coefficients.length - 1) ∧
        (5 ≤ coefficients.length → found.length ≤ 11) ∧
        (12 ≤ coefficients.length → found.length ≤ coefficients.length - 1)) ∧
    (∀ submitted check, Service.checkOf (solve submitted) = some check →
      (check.expected ≤ 3 → check.found = check.expected) ∧
        (4 ≤ check.expected → check.found ≤ 11) ∧
        (11 ≤ check.expected → check.found ≤ check.expected)) := by
  constructor
  · intro coefficients solver found h
    refine ⟨fun short => closed_count short h, fun long => found_le long h, fun longer => ?_⟩
    have few := found_le (by omega) h
    omega
  · intro submitted check checked
    obtain ⟨ok, expected, count⟩ := checkOf_counts checked
    obtain ⟨solver, found, find, same⟩ := solve_counts ok
    rw [expected, count, same]
    refine ⟨fun short => closed_count (by omega) find, fun long => found_le (by omega) find,
      fun longer => ?_⟩
    have few := found_le (by omega) find
    omega

/-- A quartic of which every seed is a root to the tolerance. -/
def flatQuartic : List Float := [1e-20, 0, 0, 0, 1e-20]

/-- The first five seeds are among what is found, whatever becomes of the others. -/
theorem flatQuartic_roots :
    ∃ found, findRoots flatQuartic = .ok (.newton, found) ∧ 5 ≤ found.length := by
  have small : ∀ seed ∈ Newton.seeds.take 5, Newton.Small flatQuartic seed := by
    simp only [Newton.seeds, List.map_cons, List.cons_append, List.take_succ_cons, List.take_zero,
      List.forall_mem_cons]
    -- a power is long to compute, so each seed is a computation of its own
    exact ⟨by decide +kernel, by decide +kernel, by decide +kernel, by decide +kernel,
      by decide +kernel, List.forall_mem_nil _⟩
  have apart : (Newton.seeds.take 5).Pairwise Newton.Apart := by decide +kernel
  have first : Newton.collect flatQuartic (Newton.seeds.take 5) [] = .ok (Newton.seeds.take 5) :=
    Newton.collect_small small apart
  obtain ⟨new, others, -⟩ :=
    Newton.collect_adds flatQuartic (Newton.seeds.drop 5) (Newton.seeds.take 5)
  have all : Newton.collect flatQuartic Newton.seeds [] = .ok (Newton.seeds.take 5 ++ new) := by
    have turns := Newton.collect_append (Newton.seeds.drop 5) first
    rw [List.take_append_drop] at turns
    exact turns.trans others
  have run : Newton.search flatQuartic = .ok ((Newton.seeds.take 5 ++ new).map .real) := by
    rw [Newton.search, all]
    rfl
  refine ⟨_, findRoots_long (by decide) run, ?_⟩
  rw [List.length_map, List.length_append]
  exact Nat.le_add_right 5 new.length

/-- More roots than the degree can be found, of finite coefficients led by one other than zero. -/
theorem not_found_le_degree : ¬ ∀ (coefficients : List Float) solver found,
    2 ≤ coefficients.length → (∀ c ∈ coefficients, Binary64.isFinite c = true) →
      (∀ c ∈ coefficients.head?, Binary64.isZero c = false) →
        findRoots coefficients = .ok (solver, found) → found.length ≤ coefficients.length - 1 := by
  intro bound
  obtain ⟨found, h, five⟩ := flatQuartic_roots
  have finite : ∀ c ∈ flatQuartic, Binary64.isFinite c = true := by decide +kernel
  have leads : ∀ c ∈ flatQuartic.head?, Binary64.isZero c = false := by decide +kernel
  have four : found.length ≤ 4 := bound flatQuartic .newton found (by decide) finite leads h
  omega

end RootFinder
