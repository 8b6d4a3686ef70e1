import Mathlib
import RootFinder.Proofs.Binary64.Finite
import RootFinder.Proofs.Binary64.Sum

/-! The order of doubles. Numbers compare as their places do; what is not a number compares with
nothing. Numbers at one place with one sign are the same. -/
namespace RootFinder.Binary64

open Float.Model (UnpackedFloat Format)
open Float.Model.UnpackedFloat (Sign unpackSign)

/-- The place of a number: its kind, then exponent and mantissa, negated for a negative one. -/
def place : UnpackedFloat → ℤ ×ₗ ℤ ×ₗ ℤ
  | .infinity .negative => toLex (-2, toLex (0, 0))
  | .finite .negative m e _ => toLex (-1, toLex (-e, -m))
  | .zero _ => toLex (0, toLex (0, 0))
  | .finite .positive m e _ => toLex (1, toLex (e, m))
  | .infinity .positive => toLex (2, toLex (0, 0))
  | .notANumber => toLex (3, toLex (0, 0))

/-- The sign of a number, also of a zero. -/
def sign? : UnpackedFloat → Option Sign
  | .infinity s | .zero s | .finite s _ _ _ => some s
  | .notANumber => none

section Unpacked

variable {u v : UnpackedFloat}

theorem compare_finite {m n : Nat} {e f : Int} (s : Sign) (left : 0 < m) (right : 0 < n) :
    ((UnpackedFloat.finite s m e left).compare (.finite s n f right) == some .lt) = true ↔
      place (.finite s m e left) < place (.finite s n f right) := by
  have exponents : compare e f = .gt ↔ f < e := Int.compare_eq_gt
  have mantissas : compare m n = .gt ↔ n < m := Nat.compare_eq_gt
  cases s with
  | positive =>
    simp only [UnpackedFloat.compare, place, Prod.Lex.toLex_lt_toLex, beq_iff_eq, Option.some.injEq,
      Ordering.then_eq_lt, Int.compare_eq_lt, Nat.compare_eq_lt, Int.compare_eq_eq, lt_irrefl,
      false_or, true_and]
    omega
  | negative =>
    simp only [UnpackedFloat.compare, place, Prod.Lex.toLex_lt_toLex, beq_iff_eq, Option.some.injEq,
      Ordering.swap_eq_lt, Ordering.then_eq_gt, exponents, mantissas, Int.compare_eq_eq, lt_irrefl,
      false_or, true_and]
    omega

/-- Numbers of two kinds compare as the kinds, finite ones of one sign by their parts. -/
theorem compare_lt_iff (left : u ≠ .notANumber) (right : v ≠ .notANumber) :
    (u.compare v == some .lt) = true ↔ place u < place v := by
  rcases u with (_ | _) | _ | _ | ⟨_ | _, m, e, _⟩ <;>
  rcases v with (_ | _) | _ | _ | ⟨_ | _, n, f, _⟩
  all_goals first
    | exact compare_finite _ _ _
    | exact absurd rfl left
    | exact absurd rfl right
    | simp [UnpackedFloat.compare, place, Prod.Lex.toLex_lt_toLex]
  decide

theorem eq_of_place (places : place u = place v) (signs : sign? u = sign? v) : u = v := by
  rcases u with (_ | _) | _ | _ | ⟨_ | _, m, e, _⟩ <;>
  rcases v with (_ | _) | _ | _ | ⟨_ | _, n, f, _⟩
  all_goals simp_all [place, sign?]

/-- The sign bit of a code is the sign of the number. -/
theorem sign_unpack {b : BitVec Format.binary64.numBits}
    (number : UnpackedFloat.unpack Format.binary64 b ≠ .notANumber) :
    sign? (UnpackedFloat.unpack Format.binary64 b) = some (Sign.ofBitVec (unpackSign b)) := by
  unfold UnpackedFloat.unpack at number ⊢
  dsimp only at number ⊢
  split_ifs at number ⊢ <;> first | rfl | exact absurd rfl number

theorem sign_view_ofView (u : UnpackedFloat) : sign? (view (ofView u)) = sign? u := by
  by_cases number : u = .notANumber
  · subst u
    rfl
  have kept (s : Sign) : Sign.ofBitVec s.toBitVec = s := by cases s <;> rfl
  have sign := sign_unpack (view_ofView_ne number)
  refine sign.trans ?_
  change some (Sign.ofBitVec (unpackSign (UnpackedFloat.pack Format.binary64 u))) = _
  cases u with
  | notANumber => exact absurd rfl number
  | infinity s => simp [UnpackedFloat.pack, UnpackedFloat.packedInfinity, sign?, kept]
  | zero s => simp [UnpackedFloat.pack, UnpackedFloat.packedZero, sign?, kept]
  | finite s m e positive =>
    unfold UnpackedFloat.pack
    dsimp only
    split_ifs <;> simp [UnpackedFloat.packedInfinity, sign?, kept]

end Unpacked

section Double

variable {x y : Float}

theorem isNaN_iff : x.isNaN = true ↔ view x = .notANumber := by
  change (view x).isNaN = true ↔ _
  cases view x <;> simp [UnpackedFloat.isNaN]

theorem isNaN_eq_false : x.isNaN = false ↔ view x ≠ .notANumber := by
  rw [ne_eq, ← isNaN_iff, Bool.not_eq_true]

theorem lt_iff_place :
    x < y ↔ x.isNaN = false ∧ y.isNaN = false ∧ place (view x) < place (view y) := by
  rw [lt_iff_view, isNaN_eq_false, isNaN_eq_false]
  by_cases left : view x = .notANumber
  · simp [left, UnpackedFloat.compare]
  · by_cases right : view y = .notANumber
    · simp [right, UnpackedFloat.compare]
    · rw [compare_lt_iff left right]
      exact ⟨fun below => ⟨left, right, below⟩, fun h => h.2.2⟩

theorem le_iff_place :
    x ≤ y ↔ x.isNaN = false ∧ y.isNaN = false ∧ place (view x) ≤ place (view y) := by
  rw [le_iff_view, isNaN_eq_false, isNaN_eq_false]
  by_cases left : view x = .notANumber
  · simp [left, UnpackedFloat.compare]
  · by_cases right : view y = .notANumber
    · simp [right, UnpackedFloat.compare]
    · obtain ⟨o, forward, back⟩ := compare_swap left right
      have order := compare_lt_iff right left
      rw [back] at order
      rw [forward, ← not_lt, ← order]
      cases o <;> simp [left, right]

/-- What has the sign of a positive number is not below zero. -/
theorem zero_le_of_sign (sign : sign? (view x) = some .positive) : 0 ≤ x := by
  have zero : view 0 = .zero .positive := by rfl
  rw [le_iff_view, zero]
  cases same : view x with
  | notANumber =>
    rw [same] at sign
    cases sign
  | zero s => rfl
  | infinity s =>
    rw [same] at sign
    cases sign
    rfl
  | finite s m e positive =>
    rw [same] at sign
    cases sign
    rfl

theorem sign_of_zero_le (nonneg : 0 ≤ x) :
    isZero x = true ∨ sign? (view x) = some .positive := by
  have zero : view 0 = .zero .positive := by rfl
  rw [le_iff_view, zero] at nonneg
  cases same : view x with
  | notANumber => simp [same, UnpackedFloat.compare] at nonneg
  | zero s => exact .inl (isZero_iff_view.mpr ⟨s, same⟩)
  | infinity s | finite s =>
    cases s with
    | negative => simp [same, UnpackedFloat.compare] at nonneg
    | positive => exact .inr rfl

/-- What has the sign of a positive number is a magnitude. -/
theorem eq_make_of_sign (sign : sign? (view x) = some .positive) :
    ∃ rank ≤ infinity, x = make false rank := by
  by_cases finite : isFinite x = true
  · obtain ⟨negative, rank, parted⟩ := isFinite_iff.mp finite
    obtain ⟨bound, made⟩ := parts_finite parted
    cases negative with
    | false => exact ⟨rank, bound.le, made.symm⟩
    | true =>
      -- then the sign bit would be that of a negative number
      have code : x.toBits.toBitVec.toNat = rank + signPlace := by
        rw [← made]
        exact toBits_make true bound.le
      have one : (rank + signPlace) / 2 ^ 63 % 2 = 1 := by
        simp only [infinity, signPlace] at *
        omega
      have bit : @unpackSign Format.binary64 x.toBits.toBitVec = 1#1 := by
        apply BitVec.eq_of_toNat_eq
        rw [toNat_sign, code, one]
        rfl
      have number : view x ≠ .notANumber := by
        intro undefined
        rw [undefined] at sign
        cases sign
      have negative : sign? (view x) = some (Sign.ofBitVec 1#1) := bit ▸ sign_unpack number
      rw [negative] at sign
      cases sign
  · rw [isFinite_iff_view] at finite
    refine ⟨infinity, le_rfl, ?_⟩
    rw [← ofView_view x, ← ofView_view (make false infinity), view_infinity]
    cases same : view x with
    | infinity s =>
      rw [same] at sign
      cases sign
      rfl
    | notANumber =>
      rw [same] at sign
      cases sign
    | zero | finite => exact absurd (by rw [same]; rfl) finite

/-- Adding what is not below zero makes a magnitude no smaller. -/
theorem make_add_of_zero_le {a : Nat} (bound : a ≤ infinity) (nonneg : 0 ≤ x) :
    ∃ b, a ≤ b ∧ b ≤ infinity ∧ make false a + x = make false b := by
  rcases sign_of_zero_le nonneg with zero | sign
  · obtain ⟨s, same⟩ := isZero_iff_view.mp zero
    refine ⟨a, le_rfl, bound, ?_⟩
    change ofView (UnpackedFloat.add .binary64 (view (make false a)) (view x)) = _
    rw [same, make_add_zero bound, ofView_view]
  · obtain ⟨b, upper, rfl⟩ := eq_make_of_sign sign
    rcases Nat.lt_or_eq_of_le upper with finite | rfl
    · exact ⟨sumRank a b, le_sumRank b bound, sumRank_le a b, make_add_make bound finite⟩
    · exact ⟨infinity, bound, le_rfl, make_add_infinity bound⟩

theorem sign_round (s : Sign) (m : Nat) (e : Int) (accuracy : UnpackedFloat.Accuracy) :
    sign? (UnpackedFloat.roundWithAccuracy .binary64 s m e accuracy) = some s := by
  unfold UnpackedFloat.roundWithAccuracy
  dsimp only
  split <;> rfl

theorem view_of_zero_lt (positive : 0 < x) (finite : isFinite x = true) :
    ∃ m e h, view x = .finite .positive m e h := by
  have zero : view 0 = .zero .positive := by rfl
  rw [lt_iff_view, zero] at positive
  rw [isFinite_iff_view] at finite
  cases same : view x with
  | notANumber => simp [same, UnpackedFloat.isFinite] at finite
  | infinity s => simp [same, UnpackedFloat.isFinite] at finite
  | zero s => simp [same, UnpackedFloat.compare] at positive
  | finite s m e h =>
    cases s with
    | positive => exact ⟨m, e, h, rfl⟩
    | negative => simp [same, UnpackedFloat.compare] at positive

/-- Nothing below zero times a positive finite factor is below zero, nor undefined. -/
theorem zero_le_mul (left : 0 ≤ x) (right : 0 < y) (finite : isFinite y = true) : 0 ≤ x * y := by
  obtain ⟨n, f, h, factor⟩ := view_of_zero_lt right finite
  have zero : view 0 = .zero .positive := by rfl
  rw [le_iff_view, zero] at left
  have product : x * y = ofView (UnpackedFloat.mul .binary64 (view x) (view y)) := rfl
  rw [product, factor]
  cases same : view x with
  | notANumber => simp [same, UnpackedFloat.compare] at left
  | zero s =>
    have zeros (t : Sign) : 0 ≤ ofView (.zero t) := by cases t <;> decide +kernel
    have none : UnpackedFloat.mul .binary64 (.zero s) (.finite .positive n f h) =
        .zero (s * .positive) := rfl
    rw [none]
    exact zeros _
  | infinity s =>
    cases s with
    | negative => simp [same, UnpackedFloat.compare] at left
    | positive => exact zero_le_of_sign (sign_view_ofView _)
  | finite s m e positive =>
    cases s with
    | negative => simp [same, UnpackedFloat.compare] at left
    | positive => exact zero_le_of_sign ((sign_view_ofView _).trans (sign_round _ _ _ _))

end Double

end RootFinder.Binary64
