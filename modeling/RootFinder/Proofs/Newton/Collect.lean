import Mathlib
import RootFinder.Newton
import RootFinder.Proofs.Strategy.Pairs
import RootFinder.Result

/-! Collecting roots, over any arithmetic. Where every seed can be followed to its end, the list of
roots only grows, by what some seed leads to; and what any seed leads to is in the list, or not far
from what is. -/
namespace RootFinder.Newton

open Scalar Approximate
open RootFinder.Polynomial (accumulate evaluate)

variable {α : Type} [Add α] [Sub α] [Mul α] [Approximate α] {c : List α}

/-- The search from the seed stops at `x`. -/
def Leads (c : List α) (seed x : α) : Prop := approach c patience seed = .ok (some x)

/-- The distance of two points is more than the tolerance. -/
def Far (x y : α) : Prop := less tolerance (magnitude (x - y)) = true

theorem Leads.unique {seed x y : α} (first : Leads c seed x) (second : Leads c seed y) : x = y := by
  cases first.symm.trans second
  rfl

omit [Add α] [Mul α] in
theorem isNew_iff {known : List α} {x : α} : isNew known x = true ↔ ∀ r ∈ known, Far r x :=
  List.all_eq_true

section Collect

structure Collects (c seeds known new : List α) : Prop where
  origins : ∃ origins, origins.Sublist seeds ∧ List.Forall₂ (Leads c) origins new
  apart : known.Pairwise Far → (known ++ new).Pairwise Far
  covered : ∀ seed ∈ seeds, ∀ x, Leads c seed x → ∃ r ∈ known ++ new, r = x ∨ ¬ Far r x

namespace Collects

variable {seed : α} {rest known new : List α}

theorem nil (c known : List α) : Collects c [] known [] where
  origins := ⟨[], .slnil, .nil⟩
  apart before := by rwa [List.append_nil]
  covered := nofun

/-- A seed that leads to nothing new adds nothing. -/
theorem skip (old : ∀ x, Leads c seed x → ∃ r ∈ known, r = x ∨ ¬ Far r x)
    (adds : Collects c rest known new) : Collects c (seed :: rest) known new where
  origins := by
    obtain ⟨origins, chosen, lead⟩ := adds.origins
    exact ⟨origins, chosen.cons seed, lead⟩
  apart := adds.apart
  covered := by
    intro s member x leads
    rcases List.mem_cons.mp member with rfl | later
    · obtain ⟨r, member, near⟩ := old x leads
      exact ⟨r, List.mem_append_left new member, near⟩
    · exact adds.covered s later x leads

/-- A seed that leads to a new point adds that point. -/
theorem keep {x : α} (leads : Leads c seed x) (fresh : ∀ r ∈ known, Far r x)
    (adds : Collects c rest (known ++ [x]) new) : Collects c (seed :: rest) known (x :: new) where
  origins := by
    obtain ⟨origins, chosen, lead⟩ := adds.origins
    exact ⟨seed :: origins, chosen.cons_cons seed, .cons leads lead⟩
  apart before := by
    rw [List.append_cons]
    refine adds.apart (List.pairwise_append.mpr ⟨before, List.pairwise_singleton _ _, ?_⟩)
    intro r member y single
    obtain rfl := List.eq_of_mem_singleton single
    exact fresh r member
  covered := by
    intro s member y other
    rw [List.append_cons]
    rcases List.mem_cons.mp member with rfl | later
    · obtain rfl := other.unique leads
      exact ⟨y, by simp, .inl rfl⟩
    · exact adds.covered s later y other

end Collects

theorem collect_collects (total : ∀ seed, ∃ found, approach c patience seed = .ok found)
    (seeds known : List α) :
    ∃ new, collect c seeds known = .ok (known ++ new) ∧ Collects c seeds known new := by
  induction seeds generalizing known with
  | nil => exact ⟨[], by rw [collect, List.append_nil], .nil c known⟩
  | cons seed rest ih =>
    obtain ⟨found, run⟩ := total seed
    cases found with
    | none =>
      obtain ⟨new, goes, adds⟩ := ih known
      refine ⟨new, ?_, adds.skip fun x leads => ?_⟩
      · rw [collect, run]
        exact goes
      · cases leads.symm.trans run
    | some x =>
      by_cases fresh : isNew known x = true
      · obtain ⟨new, goes, adds⟩ := ih (known ++ [x])
        refine ⟨x :: new, ?_, adds.keep run (isNew_iff.mp fresh)⟩
        rw [collect, run, List.append_cons]
        dsimp only
        rw [if_pos fresh]
        exact goes
      · obtain ⟨new, goes, adds⟩ := ih known
        refine ⟨new, ?_, adds.skip fun y other => ?_⟩
        · rw [collect, run]
          dsimp only
          rw [if_neg fresh]
          exact goes
        · obtain rfl := other.unique run
          rw [isNew_iff] at fresh
          obtain ⟨r, near⟩ := not_forall.mp fresh
          exact ⟨r, (Classical.not_imp.mp near).1, .inr (Classical.not_imp.mp near).2⟩

end Collect

/-- Only a power can be without a result, for being too large, and a quotient, by zero. A finite sum,
product or power is one of finite numbers, and so is what is near zero. -/
structure Strict (finite : α → Prop) : Prop where
  power_fault {x : α} {n : Nat} {fault : Fault} :
    power x n = .error fault → fault = .powerTooLarge
  quotient_ok {x y : α} : isZero y = false → ∃ z, quotient x y = .ok z
  add {x y : α} : finite (x + y) → finite x ∧ finite y
  mul {x y : α} : finite (x * y) → finite x ∧ finite y
  power {x y : α} {n : Nat} : n ≠ 0 → power x n = .ok y → finite y → finite x
  near {x : α} : less (magnitude x) tolerance = true → finite x

namespace Strict

variable {finite : α → Prop} (strict : Strict finite) {x : α}
include strict

omit [Sub α] in
theorem accumulate_fault {value derivative : α} {fault : Fault}
    (fails : accumulate x c value derivative = .error fault) : fault = .powerTooLarge := by
  induction c generalizing value derivative with
  | nil => cases fails
  | cons a rest ih =>
    cases rest with
    | nil =>
      rw [accumulate] at fails
      rcases bind_eq_error fails with power | ⟨p, -, fails⟩
      · exact strict.power_fault power
      · cases fails
    | cons b rest =>
      rw [accumulate] at fails
      rcases bind_eq_error fails with power | ⟨p, -, fails⟩
      · exact strict.power_fault power
      · rcases bind_eq_error fails with power | ⟨q, -, fails⟩
        · exact strict.power_fault power
        · exact ih fails

omit [Sub α] in
/-- At a point that is not finite, the value of a polynomial of positive degree is not either. -/
theorem accumulate_finite {value derivative value' derivative' : α}
    (found : accumulate x c value derivative = .ok (value', derivative'))
    (result : finite value') : finite value ∧ (2 ≤ c.length → finite x) := by
  induction c generalizing value derivative with
  | nil =>
    cases found
    exact ⟨result, by simp⟩
  | cons a rest ih =>
    cases rest with
    | nil =>
      rw [accumulate] at found
      obtain ⟨p, -, found⟩ := bind_eq_ok found
      cases found
      exact ⟨(strict.add result).1, by simp⟩
    | cons b rest =>
      rw [accumulate] at found
      obtain ⟨p, power, found⟩ := bind_eq_ok found
      obtain ⟨q, -, found⟩ := bind_eq_ok found
      obtain ⟨before, term⟩ := strict.add (ih found).1
      refine ⟨before, fun _ => ?_⟩
      exact strict.power (Nat.succ_ne_zero _) power (strict.mul term).2

/-- A seed can be followed to its end, and what a polynomial of positive degree leads it to is
finite. -/
theorem approach_ends (degree : 2 ≤ c.length) (fuel : Nat) (x : α) :
    ∃ found, approach c fuel x = .ok found ∧ ∀ z, found = some z → finite z := by
  induction fuel generalizing x with
  | zero => exact ⟨none, rfl, nofun⟩
  | succ fuel ih =>
    rw [approach]
    cases found : evaluate c x with
    | error fault =>
      obtain rfl := strict.accumulate_fault found
      exact ⟨none, rfl, nofun⟩
    | ok results =>
      obtain ⟨value, derivative⟩ := results
      dsimp only
      split_ifs with near flat
      · refine ⟨some x, rfl, ?_⟩
        rintro _ ⟨⟩
        exact (strict.accumulate_finite found (strict.near near)).2 degree
      · exact ⟨none, rfl, nofun⟩
      · obtain ⟨step, quotient⟩ := strict.quotient_ok (x := value) (Bool.eq_false_iff.mpr flat)
        rw [quotient]
        dsimp only
        split_ifs
        · exact ⟨none, rfl, nofun⟩
        · exact ih (x - step)

end Strict

/-- Finite numbers compare: one has no distance from itself, and two that are not far from each other
are at most the tolerance apart. -/
structure Measured (finite : α → Prop) : Prop extends Strict finite where
  self {x : α} : finite x → ¬ Far x x
  compare {x y : α} : finite x → finite y → ¬ Far x y →
    atMost (magnitude (x - y)) tolerance = true

/-- The search comes to an end. What it finds is what some seed leads to, and what a seed leads to is
within the tolerance of something found. -/
theorem Measured.search_covers [Neg α] {finite : α → Prop} (measured : Measured finite)
    (degree : 2 ≤ c.length) : ∃ found : List α, search c = .ok (found.map .real) ∧
      (∀ r ∈ found, ∃ seed ∈ seeds, Leads c seed r) ∧
      ∀ seed ∈ seeds, ∀ x, Leads c seed x →
        ∃ r ∈ found, atMost (magnitude (r - x)) tolerance = true := by
  have ends := measured.approach_ends degree patience
  have finite_of_leads {seed x : α} (leads : Leads c seed x) : finite x := by
    obtain ⟨found, run, result⟩ := ends seed
    exact result x (Except.ok.inj (run.symm.trans leads))
  have total (seed : α) : ∃ found, approach c patience seed = .ok found := by
    obtain ⟨found, run, -⟩ := ends seed
    exact ⟨found, run⟩
  obtain ⟨found, run, ⟨origins, chosen, lead⟩, -, covered⟩ := collect_collects total seeds []
  rw [List.nil_append] at run covered
  have origin (r : α) (member : r ∈ found) : ∃ seed ∈ seeds, Leads c seed r := by
    obtain ⟨seed, inside, leads⟩ := exists_origin lead member
    exact ⟨seed, chosen.subset inside, leads⟩
  refine ⟨found, ?_, origin, fun seed inside x leads => ?_⟩
  · rw [search, run]
    rfl
  · obtain ⟨r, member, near⟩ := covered seed inside x leads
    obtain ⟨other, -, otherLeads⟩ := origin r member
    have left := finite_of_leads otherLeads
    refine ⟨r, member, measured.compare left (finite_of_leads leads) ?_⟩
    rcases near with rfl | near
    · exact measured.self left
    · exact near

/-- Something is found where some seed leads somewhere. -/
theorem Measured.found_ne_nil [Neg α] {finite : α → Prop} (measured : Measured finite)
    (degree : 2 ≤ c.length) {found : List α} (run : search c = .ok (found.map .real)) {seed x : α}
    (inside : seed ∈ seeds) (leads : Leads c seed x) : found ≠ [] := by
  obtain ⟨found', run', -, covers⟩ := measured.search_covers degree
  obtain ⟨r, member, -⟩ := covers seed inside x leads
  rintro rfl
  have none : found' = [] := List.map_eq_nil_iff.mp (Except.ok.inj (run'.symm.trans run))
  rw [none] at member
  cases member

end RootFinder.Newton
