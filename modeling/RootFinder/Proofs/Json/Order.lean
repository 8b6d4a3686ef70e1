import Mathlib
import RootFinder.Json.Order
import RootFinder.Proofs.Binary64.Nearest
import RootFinder.Proofs.Sorting.Kinds

/-! Values in order. Numbers can be put in order among themselves, and so can texts; lists only if
what first differs in them can. Values of different kinds cannot, nor can anything else. -/
namespace RootFinder.Json

open Binary64 (make one parts units)

/-- The kinds of values that have an order. -/
inductive Ordered
  | number
  | text
  | list
deriving DecidableEq

def ordered? : Json → Option Ordered
  | .bool _ | .int _ | .float _ => some .number
  | .string _ => some .text
  | .array _ => some .list
  | .null | .object _ => none

section Less

variable {a b : Json} {items sorted : List Json}

theorem size?_number (number : ordered? a = some .number) : ∃ m, size? a = some m := by
  cases a with
  | bool | int => exact ⟨_, rfl⟩
  | float x =>
    unfold size?
    dsimp only
    split <;> exact ⟨_, rfl⟩
  | _ => cases number

theorem ordered?_of_size {m : Size} (size : size? a = some m) : ordered? a = some .number := by
  cases a with
  | bool | int | float => rfl
  | _ => cases size

/-- Only values of one kind are compared. -/
theorem less_ordered {down : Bool} (compared : less a b = .ok down) :
    ordered? a = ordered? b ∧ ordered? a ≠ none := by
  unfold less at compared
  split at compared
  · exact ⟨rfl, nofun⟩
  · exact ⟨rfl, nofun⟩
  · split at compared
    · rename_i left right
      rw [ordered?_of_size left, ordered?_of_size right]
      exact ⟨rfl, nofun⟩
    · cases compared

/-- Numbers are always compared, and so are texts. -/
theorem less_total {kind : Ordered} (flat : kind ≠ .list) (left : ordered? a = some kind)
    (right : ordered? b = some kind) : ∃ down, less a b = .ok down := by
  unfold less
  split
  · exact ⟨_, rfl⟩
  · cases left
    exact absurd rfl flat
  · rename_i texts _
    cases kind with
    | number =>
      obtain ⟨m, first⟩ := size?_number left
      obtain ⟨n, second⟩ := size?_number right
      rw [first, second]
      exact ⟨_, rfl⟩
    | text =>
      cases a with
      | string s =>
        cases b with
        | string t => exact (texts s t rfl rfl).elim
        | _ => cases right
      | _ => cases left
    | list => exact absurd rfl flat

/-- What is sorted, if there is more than one, are values of one kind that has an order. -/
theorem ordered_of_sort {x y : Json} {rest : List Json}
    (goes : Sorting.sort less (x :: y :: rest) = .ok sorted) :
    ∃ kind, ∀ z ∈ x :: y :: rest, ordered? z = some kind := by
  have kindly : Sorting.Kindly less ordered? := fun _ _ _ compared => (less_ordered compared).1
  obtain ⟨_, compared⟩ := Sorting.sort_compares goes
  obtain ⟨kind, same⟩ := Option.ne_none_iff_exists'.mp (less_ordered compared).2
  have uniform := Sorting.sort_uniform kindly goes
  exact ⟨kind, fun z member => (uniform z member y (by simp)).trans same⟩

/-- Numbers can be sorted, and so can texts. -/
theorem sort_flat {kind : Ordered} (flat : kind ≠ .list)
    (all : ∀ x ∈ items, ordered? x = some kind) :
    ∃ sorted, Sorting.sort less items = .ok sorted := by
  cases sorts : Sorting.sort less items with
  | ok sorted => exact ⟨sorted, rfl⟩
  | error pair =>
    obtain ⟨x, left, y, right, refused⟩ := Sorting.sort_error sorts
    obtain ⟨down, compared⟩ := less_total flat (all x left) (all y right)
    rw [refused] at compared
    cases compared

end Less

section Same

variable {a : Json} {x y : Float} {rank : Nat}

theorem same_float (a : Json) (x : Float) : same a (.float x) =
    match size? a, size? (.float x) with
    | some m, some n => m.same n
    | _, _ => false := by
  unfold same
  cases a <;> rfl

theorem size?_finite (finite : parts x = .finite false rank) :
    size? (.float x) = some (.units (units rank)) := by
  unfold size?
  dsimp only
  rw [finite]
  rfl

/-- A double has the size of another one that is positive if it is that one. -/
theorem size?_float (positive : 0 < rank) (finite : parts y = .finite false rank) :
    size? (.float x) = some (.units (units rank)) ↔ x = y := by
  constructor
  · intro size
    unfold size? at size
    dsimp only at size
    have above := Binary64.units_pos positive
    split at size
    · cases size
    · split at size <;> cases size
    · rename_i negative rank' parted
      split at size
      · have sizes := Size.units.inj (Option.some.inj size)
        omega
      · rename_i sign
        have sizes := Size.units.inj (Option.some.inj size)
        have ranks := Binary64.units_strictMono.injective (Int.ofNat_inj.mp sizes)
        rw [← (Binary64.parts_finite parted).2, ← (Binary64.parts_finite finite).2, ranks,
          Bool.eq_false_iff.mpr sign]
  · rintro rfl
    exact size?_finite finite

theorem Size.same_units {m : Size} {n : Int} : m.same (.units n) = true ↔ m = .units n := by
  cases m with
  | units k => exact beq_iff_eq.trans ⟨congrArg _, Size.units.inj⟩
  | _ => exact iff_of_false Bool.false_ne_true nofun

/-- What is the same as a positive whole number. -/
theorem same_whole {n : Nat} (positive : 0 < n) (finite : parts x = .finite false rank)
    (whole : units rank = n * one) : same a (.float x) = true ↔
      a = .int n ∨ a = .float x ∨ n = 1 ∧ a = .bool true := by
  have some : 0 < rank := by
    rcases Nat.eq_zero_or_pos rank with rfl | some
    · rw [Binary64.units_zero] at whole
      exact absurd whole.symm (Nat.mul_pos positive Binary64.one_pos).ne'
    · exact some
  have unit : (one : Int) ≠ 0 := by exact_mod_cast Binary64.one_pos.ne'
  have sized : same a (.float x) = true ↔ size? a = Option.some (.units (units rank)) := by
    rw [same_float, size?_finite finite]
    cases size? a with
    | none => exact iff_of_false Bool.false_ne_true nofun
    | some m => exact Size.same_units.trans Option.some_inj.symm
  rw [sized]
  cases a with
  | float y =>
    rw [size?_float some finite]
    simp
  | int m =>
    have size : size? (.int m) = Option.some (.units (units rank)) ↔ m = n := by
      rw [size?, Option.some_inj, Size.units.injEq, whole, Nat.cast_mul,
        Int.mul_eq_mul_right_iff unit]
    rw [size]
    simp
  | bool b =>
    have size : size? (.bool b) = Option.some (.units (units rank)) ↔ n = 1 ∧ b = true := by
      rw [size?, Option.some_inj, Size.units.injEq, whole, Nat.cast_mul]
      cases b with
      | true =>
        rw [if_pos rfl, eq_comm, mul_eq_right₀ unit]
        simp
      | false =>
        have product : (n : Int) * one ≠ 0 := mul_ne_zero (by exact_mod_cast positive.ne') unit
        rw [if_neg Bool.false_ne_true]
        exact iff_of_false product.symm fun both => Bool.false_ne_true both.2
    rw [size]
    simp
  | _ => simp [size?]

end Same

end RootFinder.Json
