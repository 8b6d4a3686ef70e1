import Mathlib
import RootFinder.Proofs.Binary64.Finite
import RootFinder.Proofs.Binary64.Order
import RootFinder.Proofs.Binary64.Zeros

/-! Negation. It turns the sign of a double and leaves the rest of its code as it is; every operation
commutes with it, apart from the sign of a zero. -/
namespace RootFinder.Binary64

open Float.Model (UnpackedFloat Format)
open Float.Model.UnpackedFloat (Sign packComponents)
open RootFinder.Polynomial (Same)

section Code

theorem ofBitVec_toBitVec (s : Sign) : Sign.ofBitVec s.toBitVec = s := by
  cases s <;> rfl

/-- The sign of a number goes into the sign field of its code and nowhere else. -/
theorem pack_neg {u : UnpackedFloat} (number : u ≠ .notANumber) : ∃ s e m,
    UnpackedFloat.pack Format.binary64 u = packComponents Format.binary64 s e m ∧
      UnpackedFloat.pack Format.binary64 u.neg = packComponents Format.binary64 (-s) e m := by
  cases u with
  | notANumber => exact absurd rfl number
  | infinity s => exact ⟨s, _, _, rfl, rfl⟩
  | zero s => exact ⟨s, _, _, rfl, rfl⟩
  | finite s m e positive =>
    refine ⟨s, ?_⟩
    unfold UnpackedFloat.neg UnpackedFloat.pack
    dsimp only
    split_ifs <;> exact ⟨_, _, rfl, rfl⟩

/-- The sign field of a code is taken for the sign of the number and for nothing else. -/
theorem unpack_neg (s : Sign) (e : BitVec Format.binary64.exponentBits)
    (m : BitVec Format.binary64.mantissaBitsWithoutImplicit) :
    UnpackedFloat.unpack Format.binary64 (packComponents Format.binary64 (-s) e m) =
      (UnpackedFloat.unpack Format.binary64 (packComponents Format.binary64 s e m)).neg := by
  unfold UnpackedFloat.unpack
  simp only [UnpackedFloat.unpackSign_packComponents, UnpackedFloat.unpackExponent_packComponents,
    UnpackedFloat.unpackMantissa_packComponents, ofBitVec_toBitVec]
  split_ifs <;> rfl

theorem view_ofView_neg (u : UnpackedFloat) : view (ofView u.neg) = (view (ofView u)).neg := by
  by_cases number : u = .notANumber
  · subst u
    rfl
  · obtain ⟨s, e, m, code, turned⟩ := pack_neg number
    change UnpackedFloat.unpack Format.binary64 (UnpackedFloat.pack Format.binary64 u.neg) =
      (UnpackedFloat.unpack Format.binary64 (UnpackedFloat.pack Format.binary64 u)).neg
    rw [code, turned, unpack_neg]

/-- Negation turns the sign. -/
theorem view_neg (x : Float) : view (-x) = (view x).neg := by
  have turned := view_ofView_neg (view x)
  rwa [ofView_view] at turned

theorem neg_ofView (u : UnpackedFloat) : -(ofView u) = ofView u.neg := by
  rw [← ofView_view (ofView u.neg), view_ofView_neg]
  rfl

theorem neg_twice (x : Float) : -(-x) = x := by
  have twice (u : UnpackedFloat) : u.neg.neg = u := by
    rcases u with (_ | _) | _ | (_ | _) | ⟨_ | _, _, _, _⟩ <;> rfl
  rw [← ofView_view x, neg_ofView, neg_ofView, twice]

def Parts.neg : Parts → Parts
  | .finite negative rank => .finite (!negative) rank
  | .infinite negative => .infinite (!negative)
  | .undefined => .undefined

/-- The parts of a double are its sign bit and the rest of its code. -/
theorem parts_of_code {x : Float} {rank : Nat} {negative : Bool} (small : rank < signPlace)
    (code : x.toBits.toNat = rank + if negative then signPlace else 0) :
    parts x = if rank < infinity then .finite negative rank
      else if rank = infinity then .infinite negative else .undefined := by
  have inner : x.toBits.toNat % signPlace = rank := by
    rw [code]
    simp only [signPlace] at *
    split <;> omega
  have side : decide (signPlace ≤ x.toBits.toNat) = negative := by
    rw [code]
    cases negative <;> simp
    exact small
  simp only [parts, inner, side]

theorem parts_neg (x : Float) : parts (-x) = (parts x).neg := by
  by_cases number : view x = .notANumber
  · have undefined : x = ofView .notANumber := by rw [← number, ofView_view]
    have same : parts (ofView .notANumber) = .undefined := by decide +kernel
    rw [undefined, neg_ofView, UnpackedFloat.neg, same]
    rfl
  · obtain ⟨s, e, m, code, turned⟩ := pack_neg number
    have front : x.toBits.toNat = (UnpackedFloat.pack Format.binary64 (view x)).toNat :=
      congrArg (fun y => y.toBits.toNat) (ofView_view x).symm
    have back : (-x).toBits.toNat = (UnpackedFloat.pack Format.binary64 (view x).neg).toNat := rfl
    rw [code, toNat_packComponents] at front
    rw [turned, toNat_packComponents] at back
    have exponent : e.toNat < 2 ^ 11 := e.isLt
    have mantissa : m.toNat < 2 ^ 52 := m.isLt
    have small : e.toNat * 2 ^ 52 + m.toNat < signPlace := by
      simp only [signPlace]
      omega
    have sides : Sign.isNegative (-s) = !Sign.isNegative s := by cases s <;> rfl
    rw [sides] at back
    rw [parts_of_code small front, parts_of_code small back]
    split_ifs <;> rfl

theorem neg_make (negative : Bool) {rank : Nat} (finite : rank < infinity) :
    -(make negative rank) = make (!negative) rank := by
  have turned : parts (-(make negative rank)) = .finite (!negative) rank := by
    rw [parts_neg, parts_make negative finite]
    rfl
  exact (parts_finite turned).2.symm

end Code

section Unpacked

theorem roundWithAccuracy_neg (s : Sign) (m : Nat) (e : Int) (accuracy : UnpackedFloat.Accuracy) :
    UnpackedFloat.roundWithAccuracy .binary64 (-s) m e accuracy =
      (UnpackedFloat.roundWithAccuracy .binary64 s m e accuracy).neg := by
  unfold UnpackedFloat.roundWithAccuracy
  dsimp only
  split <;> rfl

theorem round_neg (s : Sign) (m : Nat) (e : Int) :
    UnpackedFloat.round .binary64 (-s) m e = (UnpackedFloat.round .binary64 s m e).neg :=
  roundWithAccuracy_neg s _ _ _

/-- An exact sum or difference with the other sign is rounded to the negated double. -/
theorem normalize_neg (m e : Int) (s t : Sign) :
    Alike (UnpackedFloat.normalize .binary64 (-m) e s)
      (UnpackedFloat.normalize .binary64 m e t).neg := by
  unfold UnpackedFloat.normalize
  rcases lt_trichotomy m 0 with below | rfl | above
  · have other : compare (-m) 0 = .gt := Int.compare_eq_gt.mpr (by omega)
    rw [Int.compare_eq_lt.mpr below, other]
    exact .inl (round_neg .negative _ _)
  · exact .zeros _ _
  · have other : compare (-m) 0 = .lt := Int.compare_eq_lt.mpr (by omega)
    rw [Int.compare_eq_gt.mpr above, other]
    dsimp only
    rw [neg_neg]
    exact .inl (round_neg .positive _ _)

theorem apply_neg (s : Sign) (m : Int) : (-s).apply m = -(s.apply m) := by
  cases s
  · exact (neg_neg m).symm
  · rfl

theorem add_neg_neg (u v : UnpackedFloat) : Alike (UnpackedFloat.add .binary64 u.neg v.neg)
    (UnpackedFloat.add .binary64 u v).neg := by
  rcases u with (_ | _) | _ | (_ | _) | ⟨s, m, e, left⟩ <;>
    rcases v with (_ | _) | _ | (_ | _) | ⟨t, n, f, right⟩
  case finite.finite =>
    unfold UnpackedFloat.add UnpackedFloat.neg
    dsimp only
    rw [apply_neg, apply_neg, ← neg_add]
    exact normalize_neg _ _ _ _
  all_goals first | exact .refl _ | exact .zeros _ _

theorem sub_neg_neg (u v : UnpackedFloat) : Alike (UnpackedFloat.sub .binary64 u.neg v.neg)
    (UnpackedFloat.sub .binary64 u v).neg := by
  rcases u with (_ | _) | _ | (_ | _) | ⟨s, m, e, left⟩ <;>
    rcases v with (_ | _) | _ | (_ | _) | ⟨t, n, f, right⟩
  case finite.finite =>
    unfold UnpackedFloat.sub UnpackedFloat.neg
    dsimp only
    rw [apply_neg, apply_neg, ← neg_sub']
    exact normalize_neg _ _ _ _
  all_goals first | exact .refl _ | exact .zeros _ _

theorem mul_neg_neg (u v : UnpackedFloat) :
    UnpackedFloat.mul .binary64 u.neg v = (UnpackedFloat.mul .binary64 u v).neg ∧
      UnpackedFloat.mul .binary64 u v.neg = (UnpackedFloat.mul .binary64 u v).neg := by
  have left (s t : Sign) : -s * t = -(s * t) := by cases s <;> cases t <;> rfl
  have right (s t : Sign) : s * -t = -(s * t) := by cases s <;> cases t <;> rfl
  rcases u with s | _ | s | ⟨s, m, e, _⟩ <;> rcases v with t | _ | t | ⟨t, n, f, _⟩
  case finite.finite =>
    unfold UnpackedFloat.mul UnpackedFloat.neg
    dsimp only
    rw [left, right]
    exact ⟨roundWithAccuracy_neg _ _ _ _, roundWithAccuracy_neg _ _ _ _⟩
  all_goals simp only [UnpackedFloat.mul, UnpackedFloat.neg, left, right, and_self]

theorem div_neg_neg (u v : UnpackedFloat) :
    UnpackedFloat.div .binary64 u.neg v = (UnpackedFloat.div .binary64 u v).neg ∧
      UnpackedFloat.div .binary64 u v.neg = (UnpackedFloat.div .binary64 u v).neg := by
  have left (s t : Sign) : -s / t = -(s / t) := by cases s <;> cases t <;> rfl
  have right (s t : Sign) : s / -t = -(s / t) := by cases s <;> cases t <;> rfl
  rcases u with s | _ | s | ⟨s, m, e, _⟩ <;> rcases v with t | _ | t | ⟨t, n, f, _⟩
  case finite.finite =>
    unfold UnpackedFloat.div UnpackedFloat.neg
    dsimp only
    rw [left, right]
    exact ⟨roundWithAccuracy_neg _ _ _ _, roundWithAccuracy_neg _ _ _ _⟩
  all_goals simp only [UnpackedFloat.div, UnpackedFloat.neg, left, right, and_self]

theorem sub_opposite_view (u v : UnpackedFloat) :
    UnpackedFloat.sub .binary64 u v.neg = UnpackedFloat.add .binary64 u v := by
  have twice (s : Sign) : -(-s) = s := by cases s <;> rfl
  rcases u with s | _ | s | ⟨s, m, e, _⟩ <;> rcases v with t | _ | t | ⟨t, n, f, _⟩
  case finite.finite =>
    unfold UnpackedFloat.sub UnpackedFloat.add UnpackedFloat.neg
    dsimp only
    rw [apply_neg, sub_neg_eq_add]
  all_goals simp only [UnpackedFloat.sub, UnpackedFloat.add, UnpackedFloat.neg, twice]

theorem add_swap_view (u v : UnpackedFloat) :
    UnpackedFloat.add .binary64 u v = UnpackedFloat.add .binary64 v u := by
  rcases u with s | _ | s | ⟨s, m, e, _⟩ <;> rcases v with t | _ | t | ⟨t, n, f, _⟩
  case finite.finite =>
    unfold UnpackedFloat.add
    dsimp only
    rw [min_comm, Int.add_comm]
  case infinity.infinity => cases s <;> cases t <;> rfl
  case zero.zero => cases s <;> cases t <;> rfl
  all_goals rfl

theorem abs_neg_view (u : UnpackedFloat) : u.neg.abs = u.abs := by
  cases u <;> rfl

end Unpacked

section Operations

variable (x y : Float)

/-- To be the opposite of each other goes both ways. -/
theorem same_neg_comm {x y : Float} (h : Same x (-y)) : Same y (-x) := by
  have turned := same_neg h
  rw [neg_twice] at turned
  exact turned.symm

section Lifted

variable {f : UnpackedFloat → UnpackedFloat → UnpackedFloat}

theorem ofView_neg_left (law : ∀ u v, f u.neg v = (f u v).neg) :
    ofView (f (view (-x)) (view y)) = -(ofView (f (view x) (view y))) := by
  rw [view_neg, law, neg_ofView]

theorem ofView_neg_right (law : ∀ u v, f u v.neg = (f u v).neg) :
    ofView (f (view x) (view (-y))) = -(ofView (f (view x) (view y))) := by
  rw [view_neg, law, neg_ofView]

theorem ofView_neg_neg (law : ∀ u v, Alike (f u.neg v.neg) (f u v).neg) :
    Same (ofView (f (view (-x)) (view (-y)))) (-(ofView (f (view x) (view y)))) := by
  rw [view_neg, view_neg, neg_ofView]
  exact (law _ _).same

end Lifted

theorem same_add_neg : Same (-x + -y) (-(x + y)) := ofView_neg_neg x y add_neg_neg

theorem same_sub_neg : Same (-x - -y) (-(x - y)) := ofView_neg_neg x y sub_neg_neg

theorem mul_neg_left : -x * y = -(x * y) := ofView_neg_left x y fun u v => (mul_neg_neg u v).1

theorem mul_neg_right : x * -y = -(x * y) := ofView_neg_right x y fun u v => (mul_neg_neg u v).2

theorem div_neg_left : -x / y = -(x / y) := ofView_neg_left x y fun u v => (div_neg_neg u v).1

theorem div_neg_right : x / -y = -(x / y) := ofView_neg_right x y fun u v => (div_neg_neg u v).2

theorem sub_opposite : x - -y = x + y := by
  have sum : x + y = ofView (UnpackedFloat.add .binary64 (view x) (view y)) := rfl
  rw [sum, ← sub_opposite_view, ← view_neg]
  rfl

theorem add_swap : x + y = y + x :=
  congrArg ofView (add_swap_view (view x) (view y))

theorem magnitude_neg : (-x).abs = x.abs := by
  have magnitude : x.abs = ofView (view x).abs := rfl
  rw [magnitude, ← abs_neg_view, ← view_neg]
  rfl

theorem isZero_neg : isZero (-x) = isZero x := by
  unfold isZero
  rw [parts_neg]
  rcases parts x with ⟨_, _ | _⟩ | _ | _ <;> rfl

theorem quotient_neg_left : quotient (-x) y = (quotient x y).map (- ·) := by
  unfold quotient
  rw [div_neg_left]
  split <;> rfl

theorem quotient_neg_right : quotient x (-y) = (quotient x y).map (- ·) := by
  unfold quotient
  rw [beq_zero, beq_zero, isZero_neg, div_neg_right]
  split <;> rfl

/-- What turns with its sign is turned by an odd power and not by an even one. -/
theorem turn_power (f : Bool → Float) (turn : ∀ b, f (!b) = -(f b)) (negative : Bool) (n : Nat) :
    f (!negative && n % 2 == 1) =
      if n % 2 == 1 then -(f (negative && n % 2 == 1)) else f (negative && n % 2 == 1) := by
  cases n % 2 == 1 with
  | false => rw [Bool.and_false, Bool.and_false, if_neg Bool.false_ne_true]
  | true => rw [Bool.and_true, Bool.and_true, if_pos rfl, turn]

theorem neg_of_undefined {x : Float} (undefined : parts x = .undefined) : -x = x := by
  have number : view x = .notANumber := by
    cases same : view x with
    | notANumber => rfl
    | infinity s =>
      have infinite : parts (ofView (.infinity s)) ≠ .undefined := by
        cases s <;> decide +kernel
      rw [← same, ofView_view] at infinite
      exact absurd undefined infinite
    | zero | finite =>
      have finite : isFinite x = true := isFinite_iff_view.mpr (same ▸ rfl)
      rw [isFinite, undefined] at finite
      cases finite
  rw [← ofView_view x, number, neg_ofView]
  rfl

/-- An odd power of the opposite number is the opposite power, an even one the power itself. -/
theorem power_neg (n : Nat) :
    power (-x) n = (power x n).map fun y => if n % 2 == 1 then -y else y := by
  unfold power
  rw [parts_neg]
  by_cases none : n = 0
  · rw [if_pos none, if_pos none, none]
    rfl
  · rw [if_neg none, if_neg none]
    cases same : parts x with
    | finite negative rank =>
      dsimp only [Parts.neg]
      by_cases large : (Power.magnitude rank (Float.ofNat n)).isInf = true
      · rw [if_pos large, if_pos large]
        rfl
      · rw [if_neg large, if_neg large]
        let signed (b : Bool) : Float :=
          if b then -(Power.magnitude rank (Float.ofNat n)) else Power.magnitude rank (Float.ofNat n)
        have turn (b : Bool) : signed (!b) = -(signed b) := by
          cases b
          · rfl
          · exact (neg_twice _).symm
        exact congrArg Except.ok (turn_power signed turn negative n)
    | infinite negative =>
      have turn (b : Bool) : ofParts (.infinite !b) = -(ofParts (.infinite b)) := by
        cases b <;> decide +kernel
      exact congrArg Except.ok (turn_power (fun b => ofParts (.infinite b)) turn negative n)
    | undefined =>
      dsimp only [Parts.neg, Except.map]
      rw [neg_of_undefined same, ite_self]

end Operations

end RootFinder.Binary64
