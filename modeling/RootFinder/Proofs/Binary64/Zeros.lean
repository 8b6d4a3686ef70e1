import Mathlib
import RootFinder.Proofs.Binary64.View
import RootFinder.Proofs.Polynomial.RoundTrip
import RootFinder.Proofs.Strategy.Congruence

/-! The sign of a zero. An operation uses it only to give a zero its sign, so doubles that are the
same number stay so whatever is calculated with them. A quotient by a zero would tell its sign, but
has no result. -/
namespace RootFinder.Binary64

open Float.Model (UnpackedFloat)
open Float.Model.UnpackedFloat (Sign)
open RootFinder.Polynomial (Same)

/-- Equal, or zeros of any sign. -/
def Alike (u v : UnpackedFloat) : Prop := u = v ∨ ∃ s t, u = .zero s ∧ v = .zero t

namespace Alike

variable {u v w : UnpackedFloat}

theorem refl (u : UnpackedFloat) : Alike u u := .inl rfl

theorem zeros (s t : Sign) : Alike (.zero s) (.zero t) := .inr ⟨s, t, rfl, rfl⟩

theorem trans (first : Alike u v) (second : Alike v w) : Alike u w := by
  rcases first with rfl | ⟨s, t, rfl, rfl⟩
  · exact second
  · rcases second with rfl | ⟨_, r, -, rfl⟩
    · exact zeros s t
    · exact zeros s r

/-- An operation on one double that takes zeros to like results does not tell alike ones apart. -/
theorem map {f : UnpackedFloat → UnpackedFloat} (h : Alike u v)
    (blind : ∀ s t, Alike (f (.zero s)) (f (.zero t))) : Alike (f u) (f v) := by
  rcases h with rfl | ⟨s, t, rfl, rfl⟩
  · exact refl _
  · exact blind s t

theorem same (h : Alike u v) : Same (ofView u) (ofView v) := by
  rcases h with rfl | ⟨s, t, rfl, rfl⟩
  · exact .inl rfl
  · exact .inr ⟨isZero_ofView s, isZero_ofView t⟩

end Alike

theorem alike_view {x y : Float} (same : Same x y) : Alike (view x) (view y) := by
  rcases same with rfl | ⟨left, right⟩
  · exact .refl _
  · obtain ⟨s, first⟩ := isZero_iff_view.mp left
    obtain ⟨t, second⟩ := isZero_iff_view.mp right
    exact .inr ⟨s, t, first, second⟩

/-- Zeros of either sign are alike for the operation, on its left and on its right. -/
structure Blind (f : UnpackedFloat → UnpackedFloat → UnpackedFloat) : Prop where
  left (s t : Sign) (v : UnpackedFloat) : Alike (f (.zero s) v) (f (.zero t) v)
  right (u : UnpackedFloat) (s t : Sign) : Alike (f u (.zero s)) (f u (.zero t))

namespace Blind

theorem alike {f : UnpackedFloat → UnpackedFloat → UnpackedFloat} {u u' v v' : UnpackedFloat}
    (blind : Blind f) (first : Alike u u') (second : Alike v v') : Alike (f u v) (f u' v') := by
  have moved : Alike (f u v) (f u' v) := by
    rcases first with rfl | ⟨s, t, rfl, rfl⟩
    · exact .refl _
    · exact blind.left s t v
  refine moved.trans ?_
  rcases second with rfl | ⟨s, t, rfl, rfl⟩
  · exact .refl _
  · exact blind.right u' s t

theorem add : Blind (UnpackedFloat.add .binary64) where
  left s t v := by
    cases v with
    | zero r => cases s <;> cases t <;> cases r <;> exact .zeros _ _
    | _ => exact .refl _
  right u s t := by
    cases u with
    | zero r => cases s <;> cases t <;> cases r <;> exact .zeros _ _
    | _ => exact .refl _

theorem sub : Blind (UnpackedFloat.sub .binary64) where
  left s t v := by
    cases v with
    | zero r => cases s <;> cases t <;> cases r <;> exact .zeros _ _
    | _ => exact .refl _
  right u s t := by
    cases u with
    | zero r => cases s <;> cases t <;> cases r <;> exact .zeros _ _
    | _ => exact .refl _

theorem mul : Blind (UnpackedFloat.mul .binary64) where
  left s t v := by
    cases v with
    | infinity r => exact .refl _
    | notANumber => exact .refl _
    | _ => exact .zeros _ _
  right u s t := by
    cases u with
    | infinity r => exact .refl _
    | notANumber => exact .refl _
    | _ => exact .zeros _ _

end Blind

/-- The sign of a dividend that is zero shows in no quotient other than zero. -/
theorem alike_div {u u' : UnpackedFloat} (v : UnpackedFloat) (dividend : Alike u u') :
    Alike (UnpackedFloat.div .binary64 u v) (UnpackedFloat.div .binary64 u' v) := by
  rcases dividend with rfl | ⟨s, t, rfl, rfl⟩
  · exact .refl _
  · cases v with
    | zero r => exact .refl _
    | notANumber => exact .refl _
    | _ => exact .zeros _ _

theorem compare_alike {u u' v v' : UnpackedFloat} (first : Alike u u') (second : Alike v v') :
    u.compare v = u'.compare v' := by
  have moved : u.compare v = u'.compare v := by
    rcases first with rfl | ⟨s, t, rfl, rfl⟩
    · rfl
    · cases v with
      | infinity r => cases r <;> rfl
      | finite r m e positive => cases r <;> rfl
      | _ => rfl
  rw [moved]
  rcases second with rfl | ⟨s, t, rfl, rfl⟩
  · rfl
  · cases u' with
    | infinity r => cases r <;> rfl
    | finite r m e positive => cases r <;> rfl
    | _ => rfl

section Operations

variable {x x' y y' : Float}

theorem same_add (first : Same x x') (second : Same y y') : Same (x + y) (x' + y') :=
  (Blind.add.alike (alike_view first) (alike_view second)).same

theorem same_sub (first : Same x x') (second : Same y y') : Same (x - y) (x' - y') :=
  (Blind.sub.alike (alike_view first) (alike_view second)).same

theorem same_mul (first : Same x x') (second : Same y y') : Same (x * y) (x' * y') :=
  (Blind.mul.alike (alike_view first) (alike_view second)).same

theorem same_neg (h : Same x x') : Same (-x) (-x') := by
  have negated : Alike (view x).neg (view x').neg :=
    (alike_view h).map fun _ _ => .zeros _ _
  exact negated.same

theorem same_abs (h : Same x x') : Same x.abs x'.abs := by
  have magnitudes : Alike (view x).abs (view x').abs :=
    (alike_view h).map fun _ _ => .zeros _ _
  exact magnitudes.same

theorem lt_same (first : Same x x') (second : Same y y') : decide (x < y) = decide (x' < y') := by
  rw [decide_eq_decide, lt_iff_view, lt_iff_view,
    compare_alike (alike_view first) (alike_view second)]

theorem beq_same (first : Same x x') (second : Same y y') : (x == y) = (x' == y') := by
  have compared := compare_alike (alike_view first) (alike_view second)
  exact congrArg (· == some Ordering.eq) compared

theorem same_quotient (first : Same x x') (second : Same y y') :
    Agree Same (quotient x y) (quotient x' y') := by
  unfold quotient
  rw [beq_zero, beq_zero, second.isZero_eq]
  split
  · exact .error _
  · rename_i other
    rcases second with rfl | ⟨-, zero⟩
    · exact .ok (alike_div (view y) (alike_view first)).same
    · exact absurd zero other

theorem same_squareRoot (h : Same x x') : Agree Same (squareRoot x) (squareRoot x') := by
  have below : x < 0 ↔ x' < 0 := decide_eq_decide.mp (lt_same h (.inl rfl))
  unfold squareRoot
  simp only [below]
  split
  · exact .error _
  · have roots : Alike ((view x).sqrt .binary64) ((view x').sqrt .binary64) :=
      (alike_view h).map fun _ _ => .zeros _ _
    exact .ok roots.same

theorem same_arcCosine (h : Same x x') : arcCosine x = arcCosine x' := by
  unfold arcCosine
  rw [lt_same h (.inl rfl : Same (-1) (-1)), lt_same (.inl rfl : Same 1 1) h, h.isZero_eq]
  rcases h with rfl | ⟨-, zero⟩
  · rfl
  · rw [if_pos zero, if_pos zero]

end Operations

/-- The powers of a zero are zero, apart from the power zero. -/
theorem power_of_isZero {x : Float} {n : Nat} (zero : isZero x = true) (positive : n ≠ 0) :
    ∃ y, power x n = .ok y ∧ isZero y = true := by
  obtain ⟨negative, same⟩ := isZero_iff.mp zero
  have none : Power.magnitude 0 (Float.ofNat n) = make false 0 := if_pos rfl
  have small : (make false 0).isInf = false := by decide +kernel
  unfold power
  simp only [if_neg positive, same, none, small, Bool.false_eq_true, if_false]
  refine ⟨_, rfl, ?_⟩
  split <;> decide +kernel

theorem same_power {x x' : Float} (n : Nat) (h : Same x x') :
    Agree Same (power x n) (power x' n) := by
  rcases h with rfl | ⟨left, right⟩
  · cases power x n with
    | ok y => exact .ok (.inl rfl)
    | error fault => exact .error fault
  · by_cases constant : n = 0
    · subst n
      exact .ok (.inl rfl)
    · obtain ⟨y, first, zero⟩ := power_of_isZero left constant
      obtain ⟨y', second, zero'⟩ := power_of_isZero right constant
      rw [first, second]
      exact .ok (.inr ⟨zero, zero'⟩)

theorem cubeRoot_of_isZero {x : Float} (zero : isZero x = true) : isZero (cubeRoot x) = true := by
  obtain ⟨negative, same⟩ := isZero_iff.mp zero
  have none : Power.magnitude 0 third = make false 0 := if_pos rfl
  unfold cubeRoot
  simp only [same, none]
  split <;> decide +kernel

theorem same_cubeRoot {x x' : Float} (h : Same x x') : Same (cubeRoot x) (cubeRoot x') := by
  rcases h with rfl | ⟨left, right⟩
  · exact .inl rfl
  · exact .inr ⟨cubeRoot_of_isZero left, cubeRoot_of_isZero right⟩

/-- Doubles do not tell the two zeros apart. -/
theorem respects_same : Respects Same where
  refl _ := .inl rfl
  add := same_add
  sub := same_sub
  mul := same_mul
  neg := same_neg
  power := same_power
  less := lt_same
  same := beq_same
  magnitude := same_abs
  quotient := same_quotient
  squareRoot := same_squareRoot
  cubeRoot := same_cubeRoot
  arcCosine := same_arcCosine

theorem roundRank_zero (places : Int) : roundRank places 0 = 0 := by
  have none : units 0 = 0 := rfl
  unfold roundRank
  split
  · rfl
  · split
    · rfl
    · simp only [none, Nat.zero_mul, roundDiv_zero, nearest_zero]

theorem roundPart_of_isZero {places : Int} {x : Float} (zero : isZero x = true) :
    Root.roundPart places x = .ok (make false 0) := by
  obtain ⟨negative, same⟩ := isZero_iff.mp zero
  have folded : foldZero (make negative 0) = make false 0 := by
    cases negative <;> decide +kernel
  unfold Root.roundPart round
  simp only [same, roundRank_zero]
  rw [if_neg (by decide)]
  exact congrArg Except.ok folded

/-- A part that is rounded loses the sign of a zero. -/
theorem roundPart_same {places : Int} {x x' : Float} (h : Same x x') :
    Root.roundPart places x = Root.roundPart places x' := by
  rcases h with rfl | ⟨left, right⟩
  · rfl
  · rw [roundPart_of_isZero left, roundPart_of_isZero right]

theorem round_related {places : Int} {root root' : Root Float} (h : root.Related Same root') :
    root.round places = root'.round places := by
  cases h with
  | real value => rw [Root.round, Root.round, roundPart_same value]
  | complex re im => rw [Root.round, Root.round, roundPart_same re, roundPart_same im]

/-- Roots that are the same numbers are presented alike. -/
theorem present_related {solver : Strategy} {roots roots' : List (Root Float)}
    (h : List.Forall₂ (Root.Related Same) roots roots') :
    present solver roots = present solver roots' := by
  have rounded : roots.mapM (Root.round places) = roots'.mapM (Root.round places) := by
    induction h with
    | nil => rfl
    | cons head _ ih => rw [List.mapM_cons, List.mapM_cons, round_related head, ih]
  have empty : roots.isEmpty = roots'.isEmpty := by
    cases h <;> rfl
  rw [present, present, rounded, empty]

end RootFinder.Binary64
