import Mathlib
import RootFinder.Proofs.Binary64.Zeros
import RootFinder.Proofs.Newton.Orbit

/-! The search from all seeds. The list of roots only grows: a point that a seed converges to is
added when it lies apart from those already found, and left out when one of them is near. -/
namespace RootFinder.Newton

open Binary64 (isZero isFinite)

def Apart (x y : Float) : Prop := tolerance < (x - y).abs

instance (x y : Float) : Decidable (Apart x y) :=
  inferInstanceAs (Decidable (tolerance < (x - y).abs))

section Distance

variable {x y : Float}

theorem tolerance_ne : Binary64.view tolerance ≠ .notANumber := by
  intro undefined
  have finite : isFinite tolerance = true := by decide +kernel
  rw [Binary64.isFinite_iff_view, undefined] at finite
  cases finite

/-- A finite point is not apart from itself. -/
theorem not_apart_self (finite : isFinite x = true) : ¬ Apart x x := by
  have zero : RootFinder.Polynomial.Same (x - x) 0 :=
    .inr ⟨Binary64.isZero_sub_self finite, by decide +kernel⟩
  have compared := Binary64.lt_same (.inl rfl : RootFinder.Polynomial.Same tolerance tolerance)
    (Binary64.same_abs zero)
  have nearZero : decide ((tolerance : Float) < (0 : Float).abs) = false := by decide +kernel
  rw [nearZero, decide_eq_false_iff_not] at compared
  exact compared

/-- Finite points that are not apart are near. -/
theorem near_of_not_apart (left : isFinite x = true) (right : isFinite y = true)
    (same : ¬ Apart x y) : (x - y).abs ≤ tolerance :=
  Binary64.le_of_not_lt tolerance_ne (Binary64.view_abs_ne (Binary64.view_sub_ne left right)) same

theorem far_iff : Far x y ↔ Apart x y := less_iff

/-- Finite doubles compare. -/
theorem measured_doubles : Measured fun x : Float => isFinite x = true where
  toStrict := strict_doubles
  self finite := mt far_iff.mp (not_apart_self finite)
  compare left right near :=
    Binary64.atMost_iff.mpr (near_of_not_apart left right (mt far_iff.mpr near))

end Distance

section Collect

variable {c : List Float}

structure Adds (c seeds known new : List Float) : Prop where
  origins : ∃ origins, origins.Sublist seeds ∧ List.Forall₂ (Converges c) origins new
  apart : known.Pairwise Apart → (known ++ new).Pairwise Apart
  covered : ∀ seed ∈ seeds, ∀ x, Converges c seed x → ∃ r ∈ known ++ new, r = x ∨ ¬ Apart r x

theorem collect_adds (c seeds known : List Float) :
    ∃ new, collect c seeds known = .ok (known ++ new) ∧ Adds c seeds known new := by
  have total (seed : Float) : ∃ found, approach c patience seed = .ok found := by
    obtain ⟨found, run, -⟩ := approach_total c patience seed
    exact ⟨found, run⟩
  have leads : Leads c = Converges c := by
    funext seed x
    exact propext leads_iff
  have far : @Far Float _ _ = Apart := by
    funext x y
    exact propext far_iff
  obtain ⟨new, run, ⟨origins, apart, covered⟩⟩ := collect_collects total seeds known
  rw [leads] at origins covered
  rw [far] at apart covered
  exact ⟨new, run, origins, apart, covered⟩

/-- Seeds that are roots to the tolerance are all found, if they lie apart. -/
theorem collect_small {seeds known : List Float} (small : ∀ seed ∈ seeds, Small c seed)
    (apart : (known ++ seeds).Pairwise Apart) : collect c seeds known = .ok (known ++ seeds) := by
  induction seeds generalizing known with
  | nil => rw [collect, List.append_nil]
  | cons seed rest ih =>
    obtain ⟨first, others⟩ := List.forall_mem_cons.mp small
    have fresh : isNew known seed = true :=
      isNew_iff.mpr fun r member => far_iff.mpr ((List.pairwise_append.mp apart).2.2 r member seed
        List.mem_cons_self)
    rw [List.append_cons] at apart ⊢
    rw [collect, patience, approach_of_small first]
    dsimp only
    rw [if_pos fresh]
    exact ih others apart

/-- What a first turn finds is known in the second. -/
theorem collect_append {first known found : List Float} (rest : List Float)
    (turn : collect c first known = .ok found) :
    collect c (first ++ rest) known = collect c rest found := by
  induction first generalizing known with
  | nil =>
    cases turn
    rfl
  | cons seed seeds ih =>
    obtain ⟨reached, run, -⟩ := approach_total c patience seed
    rw [List.cons_append]
    rw [collect, run] at turn ⊢
    cases reached with
    | none => exact ih turn
    | some x => exact ih turn

end Collect

/-- The laws of the search. It always comes to an end, with a list of points at which the
polynomial is nearly zero; they lie apart; every point that a seed converges to is near to one of
them; and each of them is what one of the seeds converges to, in the order of the seeds. -/
theorem search_laws (c : List Float) : ∃ found : List Float,
    search c = .ok (found.map .real) ∧
    (∀ r ∈ found, Small c r) ∧
    found.Pairwise (fun r x => tolerance < (r - x).abs) ∧
    (∀ seed ∈ seeds, ∀ x, Converges c seed x → ∃ r ∈ found, (r - x).abs ≤ tolerance) ∧
    ∃ origins, origins.Sublist seeds ∧ List.Forall₂ (Converges c) origins found := by
  obtain ⟨found, run, ⟨origins, chosen, converge⟩, apart, covered⟩ := collect_adds c seeds []
  rw [List.nil_append] at run apart covered
  have seedFinite : ∀ seed ∈ (seeds : List Float), isFinite seed = true := by decide +kernel
  have origin {r : Float} (member : r ∈ found) :
      ∃ seed ∈ (seeds : List Float), Converges c seed r := by
    obtain ⟨seed, inside, converges⟩ := exists_origin converge member
    exact ⟨seed, chosen.subset inside, converges⟩
  refine ⟨found, ?_, ?_, apart .nil, ?_, origins, chosen, converge⟩
  · rw [search, run]
    rfl
  · intro r member
    obtain ⟨seed, -, k, -, -, small⟩ := origin member
    exact small
  · intro seed inside x converges
    obtain ⟨r, member, near⟩ := covered seed inside x converges
    obtain ⟨other, otherInside, otherConverges⟩ := origin member
    have rFinite := otherConverges.finite (seedFinite other otherInside)
    have xFinite := converges.finite (seedFinite seed inside)
    refine ⟨r, member, near_of_not_apart rFinite xFinite ?_⟩
    rcases near with rfl | near
    · exact not_apart_self rFinite
    · exact near

end RootFinder.Newton
