import Mathlib
import RootFinder.Proofs.Expression.Bounds
import RootFinder.Proofs.Newton.Search
import RootFinder.Proofs.Root.Rounding

/-! Solving by the search. The seeds are finite, so is what they converge to, and finite roots can be
rounded to finite ones: the only way for such a solution to fail is that nothing was found. -/
namespace RootFinder

open Binary64 (isFinite)

variable {c found : List Float}

theorem seeds_finite : ∀ seed ∈ (Newton.seeds : List Float), isFinite seed = true := by
  decide +kernel

/-- What the search finds is finite, also where a seed went through numbers that are not; and where a
seed converges, it finds something. -/
theorem search_finite (c : List Float) : ∃ found : List Float,
    Newton.search c = .ok (found.map .real) ∧ (∀ r ∈ found, isFinite r = true) ∧
      ∀ seed ∈ Newton.seeds, ∀ x, Newton.Converges c seed x → found ≠ [] := by
  obtain ⟨found, run, ⟨origins, chosen, converge⟩, -, covered⟩ :=
    Newton.collect_adds c Newton.seeds []
  rw [List.nil_append] at run covered
  refine ⟨found, ?_, ?_, ?_⟩
  · rw [Newton.search, run]
    rfl
  · -- an infinite or undefined point is never nearly a root
    intro r member
    obtain ⟨seed, inside, converges⟩ := exists_origin converge member
    exact converges.finite (seeds_finite seed (chosen.subset inside))
  · rintro seed inside x converges rfl
    obtain ⟨r, member, -⟩ := covered seed inside x converges
    cases member

/-- Finite numbers are rounded one by one, and then they are fit to be reported. -/
theorem mapM_round (finite : ∀ r ∈ found, isFinite r = true) : ∃ rounded : List Float,
    found.mapM (Root.roundPart places) = .ok rounded ∧
      (found.map Root.real).mapM (Root.round places) = .ok (rounded.map .real) ∧
      ∀ r ∈ rounded, IsReported r := by
  induction found with
  | nil => exact ⟨[], rfl, rfl, nofun⟩
  | cons x xs ih =>
    obtain ⟨first, others⟩ := List.forall_mem_cons.mp finite
    obtain ⟨y, rounds⟩ := roundPart_total places first
    obtain ⟨ys, parts, roots, reported⟩ := ih others
    have root : Root.round places (.real x) = .ok (.real y) := by
      rw [Root.round, rounds]
      rfl
    refine ⟨y :: ys, ?_, ?_, ?_⟩
    · rw [List.mapM_cons, rounds, parts]
      rfl
    · rw [List.map_cons, List.mapM_cons, root, roots]
      rfl
    · exact List.forall_mem_cons.mpr ⟨(roundPart_again first rounds).2, reported⟩

/-- Finite roots are presented if there are any. -/
theorem present_finite (solver : Strategy) (some : found ≠ [])
    (finite : ∀ r ∈ found, isFinite r = true) : ∃ rounded : List Float,
    found.mapM (Root.roundPart places) = .ok rounded ∧
      present solver (found.map .real) = .ok (rounded.map .real) ∧
      ∀ r ∈ rounded, IsReported r := by
  obtain ⟨rounded, parts, roots, reported⟩ := mapM_round finite
  refine ⟨rounded, parts, ?_, reported⟩
  have nonempty : (found.map Root.real).isEmpty = false := by
    rw [List.isEmpty_map, List.isEmpty_eq_false_iff]
    exact some
  have all : (rounded.map Root.real).all Root.isFinite = true := by
    rw [List.all_map, List.all_eq_true]
    exact fun r member => (reported r member).1
  rw [present, nonempty, roots]
  exact if_pos all

/-- A polynomial of more than four coefficients is searched. -/
theorem findRoots_long (long : 5 ≤ c.length) (run : Newton.search c = .ok (found.map .real)) :
    findRoots c = .ok (.newton, found.map .real) := by
  have chosen : Strategy.select? c.length = some .newton := by
    rw [Strategy.select?, if_neg (by omega), if_neg (by omega), if_neg (by omega),
      if_neg (by omega)]
  rw [findRoots, chosen]
  dsimp only
  rw [Strategy.run, run]

theorem Solution.roots_eq_nil {s : Solution} {notice : Notice} (failed : s.notice? = some notice) :
    s.roots = [] := by
  cases outcome : s.outcome with
  | ok roots =>
    rw [Solution.notice?, outcome] at failed
    cases failed
  | error failure => rw [Solution.roots, outcome]

section Solving

variable {submitted : Json} {parsed : List Float}

/-- What is found is rounded and reported. -/
theorem solve_found (read : Expression.parseJson submitted = .ok parsed)
    (long : 5 ≤ (Polynomial.trim parsed).length)
    (run : Newton.search (Polynomial.trim parsed) = .ok (found.map .real))
    (finite : ∀ r ∈ found, isFinite r = true) (some : found ≠ []) :
    ∃ rounded, found.mapM (Root.roundPart places) = .ok rounded ∧
      (∀ r ∈ rounded, isFinite r = true) ∧ (solve submitted).strategy = Option.some .newton ∧
      (solve submitted).ok = true ∧ (solve submitted).roots = rounded.map .real := by
  obtain ⟨rounded, parts, presented, reported⟩ := present_finite .newton some finite
  refine ⟨rounded, parts, fun r member => (reported r member).1, ?_⟩
  rw [solve, read]
  dsimp only
  rw [findRoots_long long run]
  dsimp only
  rw [presented]
  exact ⟨rfl, rfl, rfl⟩

/-- There are roots where a seed converges. -/
theorem solve_converges (read : Expression.parseJson submitted = .ok parsed)
    (long : 5 ≤ (Polynomial.trim parsed).length) {seed x : Float} (inside : seed ∈ Newton.seeds)
    (converges : Newton.Converges (Polynomial.trim parsed) seed x) : (solve submitted).ok = true := by
  obtain ⟨found, run, finite, some⟩ := search_finite (Polynomial.trim parsed)
  obtain ⟨rounded, -, -, -, ok, -⟩ :=
    solve_found read long run finite (some seed inside x converges)
  exact ok

/-- A polynomial of more than four coefficients is solved by the search: it fails, and says so, just
when nothing is found; otherwise the roots found are rounded and reported, all of them finite. -/
theorem solve_searched (read : Expression.parseJson submitted = .ok parsed)
    (long : 5 ≤ (Polynomial.trim parsed).length) :
    ∃ found : List Float, Newton.search (Polynomial.trim parsed) = .ok (found.map .real) ∧
      (solve submitted).strategy = some .newton ∧
      (found = [] ∧ (solve submitted).ok = false ∧
          (∃ notice, (solve submitted).notice? = some notice ∧
            notice.kind.name = "SolverInternalError" ∧
            notice.message = "An error occurred while solving the polynomial: " ++
              "newton search found no real roots") ∨
        found ≠ [] ∧ (solve submitted).ok = true ∧
          ∃ rounded, found.mapM (Root.roundPart places) = .ok rounded ∧
            (solve submitted).roots = rounded.map .real ∧
            ∀ r ∈ rounded, isFinite r = true) := by
  obtain ⟨found, run, finite, -⟩ := search_finite (Polynomial.trim parsed)
  refine ⟨found, run, ?_⟩
  by_cases none : found = []
  · subst none
    rw [solve, read]
    dsimp only
    rw [findRoots_long long run]
    refine ⟨rfl, .inl ⟨rfl, rfl, _, rfl, rfl, ?_⟩⟩
    decide +kernel
  · obtain ⟨rounded, parts, whole, solver, ok, roots⟩ := solve_found read long run finite none
    exact ⟨solver, .inr ⟨none, ok, rounded, parts, roots, whole⟩⟩

end Solving

/-- A polynomial without real roots, at which the seeds do not settle. -/
theorem solve_searched_quartic :
    Expression.parseJson (.string "x^4 + 1") = .ok [1, 0, 0, 0, 1] ∧
      (solve (.string "x^4 + 1")).strategy = some .newton ∧
      ∀ root ∈ (solve (.string "x^4 + 1")).roots, root.isFinite = true := by
  have read : Expression.parseJson (.string "x^4 + 1") = .ok [1, 0, 0, 0, 1] := by decide +kernel
  obtain ⟨found, -, solver, ⟨-, -, notice, failed, -⟩ | ⟨-, -, rounded, -, roots, finite⟩⟩ :=
    solve_searched read (by decide +kernel)
  · refine ⟨read, solver, ?_⟩
    rw [Solution.roots_eq_nil failed]
    exact nofun
  · refine ⟨read, solver, ?_⟩
    rw [roots]
    exact List.forall_mem_map.mpr finite

end RootFinder
