import Mathlib
import RootFinder.Verification

/-! The largest of a list, for numbers that a key places in a linear order; among them the scale of
a check and its worst residual. -/
namespace RootFinder.Approximate

open Scalar

variable {α β : Type} [LinearOrder β] {key : α → β}

structure IsLargest (key : α → β) (xs : List α) (m : α) : Prop where
  mem : m ∈ xs
  bound : ∀ x ∈ xs, key x ≤ key m

namespace IsLargest

variable {xs ys : List α} {m n : α}

theorem cons {x : α} (h : IsLargest key xs m) (below : key x ≤ key m) :
    IsLargest key (x :: xs) m where
  mem := List.mem_cons_of_mem x h.mem
  bound := List.forall_mem_cons.mpr ⟨below, h.bound⟩

theorem cons_above {x : α} (h : IsLargest key xs m) (above : key m ≤ key x) :
    IsLargest key (x :: xs) x where
  mem := List.mem_cons_self
  bound := List.forall_mem_cons.mpr ⟨le_rfl, fun y member => (h.bound y member).trans above⟩

theorem perm (h : IsLargest key xs m) (same : xs.Perm ys) : IsLargest key ys m where
  mem := same.mem_iff.mp h.mem
  bound x member := h.bound x (same.mem_iff.mpr member)

theorem key_eq (first : IsLargest key xs m) (second : IsLargest key xs n) : key m = key n :=
  le_antisymm (second.bound m first.mem) (first.bound n second.mem)

/-- All are below a bound exactly when the largest is. -/
theorem le_iff (h : IsLargest key xs m) {b : β} : key m ≤ b ↔ ∀ x ∈ xs, key x ≤ b :=
  ⟨fun below x member => (h.bound x member).trans below, fun all => all m h.mem⟩

end IsLargest

variable [Approximate α]

/-- The members of a list compare as their keys do. -/
def Ordered (key : α → β) (xs : List α) : Prop :=
  ∀ x ∈ xs, ∀ y ∈ xs, less x y = decide (key x < key y)

theorem Ordered.subset {xs ys : List α} (ordered : Ordered key ys) (inside : xs ⊆ ys) :
    Ordered key xs := fun x hx y hy => ordered x (inside hx) y (inside hy)

theorem isLargest_largest {first : α} {rest : List α} (ordered : Ordered key (first :: rest)) :
    IsLargest key (first :: rest) (largest first rest) := by
  induction rest generalizing first with
  | nil => exact ⟨List.mem_cons_self, by simp [largest]⟩
  | cons next rest ih =>
    have step : largest first (next :: rest) =
        largest (if less first next then next else first) rest := rfl
    rw [step, ordered first List.mem_cons_self next (by simp)]
    by_cases above : key first < key next
    · rw [decide_eq_true above, if_pos rfl]
      have found := ih (ordered.subset (List.subset_cons_self first _))
      exact found.cons (above.le.trans (found.bound next List.mem_cons_self))
    · rw [decide_eq_false above, if_neg Bool.false_ne_true]
      have found := ih (ordered.subset (List.cons_subset_cons first (List.subset_cons_self _ _)))
      have below := (not_lt.mp above).trans (found.bound first List.mem_cons_self)
      exact (found.cons below).perm (.swap first next rest)

/-- The scale is the largest of one and the magnitudes of the coefficients. -/
theorem isLargest_scale {first : α} {rest : List α}
    (ordered : Ordered key (whole 1 :: (first :: rest).map magnitude)) :
    IsLargest key (whole 1 :: (first :: rest).map magnitude)
      (Verification.scale first rest) := by
  have most : IsLargest key ((first :: rest).map magnitude)
      (largest (magnitude first) (rest.map magnitude)) :=
    isLargest_largest (ordered.subset (List.subset_cons_self _ _))
  unfold Verification.scale
  dsimp only
  rw [ordered _ List.mem_cons_self _ (List.mem_cons_of_mem _ most.mem)]
  by_cases above : key (whole 1) < key (largest (magnitude first) (rest.map magnitude))
  · rw [decide_eq_true above, if_pos rfl]
    exact most.cons above.le
  · rw [decide_eq_false above, if_neg Bool.false_ne_true]
    exact most.cons_above (not_lt.mp above)

end RootFinder.Approximate
