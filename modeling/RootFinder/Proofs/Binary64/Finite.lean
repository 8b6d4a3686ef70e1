import Mathlib
import RootFinder.Binary64.Arithmetic
import RootFinder.Proofs.Binary64.View

/-! What is finite and what is a number. A finite sum, product or power has finite operands, and the
difference of finite doubles is a number, so that it compares with every other one. -/
namespace RootFinder.Binary64

open Float.Model (UnpackedFloat Format)
open Float.Model.UnpackedFloat (Sign unpackExponent unpackMantissa)

variable {x y : Float} {u v : UnpackedFloat}

section Finite

theorem isFinite_iff_view : isFinite x = true ↔ (view x).isFinite = true := by
  rw [← isFinite_eq]
  exact Iff.rfl

theorem isFinite_of_ofView (finite : isFinite (ofView u) = true) : u.isFinite = true := by
  cases u with
  | notANumber => exact absurd finite (by decide +kernel)
  | infinity s => cases s <;> exact absurd finite (by decide +kernel)
  | zero s => rfl
  | finite s m e positive => rfl

/-- The operation has no finite result unless both operands are finite. -/
def Strict (f : UnpackedFloat → UnpackedFloat → UnpackedFloat) : Prop :=
  ∀ u v, (f u v).isFinite = true → u.isFinite = true ∧ v.isFinite = true

theorem Strict.add : Strict (UnpackedFloat.add .binary64) := by
  intro u v finite
  cases u with
  | notANumber => cases finite
  | infinity s =>
    cases v with
    | infinity t => cases s <;> cases t <;> cases finite
    | _ => cases finite
  | _ =>
    cases v with
    | notANumber => cases finite
    | infinity t => cases finite
    | _ => exact ⟨rfl, rfl⟩

theorem Strict.mul : Strict (UnpackedFloat.mul .binary64) := by
  intro u v finite
  cases u with
  | notANumber => cases finite
  | infinity s => cases v <;> cases finite
  | _ =>
    cases v with
    | notANumber => cases finite
    | infinity t => cases finite
    | _ => exact ⟨rfl, rfl⟩

theorem isFinite_of_add (finite : isFinite (x + y) = true) :
    isFinite x = true ∧ isFinite y = true := by
  rw [isFinite_iff_view, isFinite_iff_view]
  exact Strict.add _ _ (isFinite_of_ofView finite)

theorem isFinite_of_mul (finite : isFinite (x * y) = true) :
    isFinite x = true ∧ isFinite y = true := by
  rw [isFinite_iff_view, isFinite_iff_view]
  exact Strict.mul _ _ (isFinite_of_ofView finite)

theorem isFinite_of_power {n : Nat} (positive : n ≠ 0) (power : power x n = .ok y)
    (finite : isFinite y = true) : isFinite x = true := by
  unfold Binary64.power at power
  rw [if_neg positive] at power
  unfold isFinite
  cases same : parts x with
  | finite negative rank => rfl
  | infinite negative =>
    rw [same] at power
    cases power
    rw [ofParts, isFinite, parts_make_infinity] at finite
    cases finite
  | undefined =>
    rw [same] at power
    cases power
    rw [isFinite, same] at finite
    exact finite

/-- What is nearer to zero than another double is finite. -/
theorem isFinite_of_abs_lt (near : x.abs < y) : isFinite x = true := by
  rw [isFinite_iff_view]
  have compared : ((view (ofView (view x).abs)).compare (view y) == some .lt) = true :=
    lt_iff_view.mp near
  cases same : view x with
  | notANumber =>
    rw [same] at compared
    cases compared
  | infinity s =>
    have top : view (ofView (.infinity .positive)) = .infinity .positive := by rfl
    rw [same, UnpackedFloat.abs, top] at compared
    cases bound : view y with
    | infinity t => cases t <;> rw [bound] at compared <;> cases compared
    | _ =>
      rw [bound] at compared
      cases compared
  | _ => rfl

/-- A sign does not show in the exponent field. -/
theorem exponent_pack_abs (u : UnpackedFloat) :
    unpackExponent (UnpackedFloat.pack Format.binary64 u.abs) =
      unpackExponent (UnpackedFloat.pack Format.binary64 u) := by
  have field (s : Sign) (m : Nat) (e : Int) (positive : 0 < m) :
      unpackExponent (UnpackedFloat.pack Format.binary64 (.finite s m e positive)) =
        unpackExponent (UnpackedFloat.pack Format.binary64 (.finite .positive m e positive)) := by
    unfold UnpackedFloat.pack
    dsimp only
    split_ifs <;>
      simp only [UnpackedFloat.packedInfinity, UnpackedFloat.unpackExponent_packComponents]
  cases u with
  | notANumber => rfl
  | infinity s => cases s <;> rfl
  | zero s => cases s <;> rfl
  | finite s m e positive => exact (field s m e positive).symm

/-- The exponent field of a finite double is not full. -/
theorem exponent_ne_of_isFinite (finite : isFinite x = true) :
    @unpackExponent Format.binary64 x.toBits.toBitVec ≠ BitVec.allOnes _ := by
  intro full
  have field := toNat_exponent x.toBits.toBitVec
  obtain ⟨negative, rank, same⟩ := isFinite_iff.mp finite
  obtain ⟨below, rfl⟩ := parts_finite same
  have code : (make negative rank).toBits.toBitVec.toNat = _ := toBits_make negative below.le
  rw [full, code] at field
  change 2047 = _ at field
  simp only [infinity, signPlace] at below field
  cases negative <;> simp at field <;> omega

theorem isFinite_abs (finite : isFinite x = true) : isFinite x.abs = true := by
  refine isFinite_of_exponent ?_
  have code : x.toBits.toBitVec = UnpackedFloat.pack Format.binary64 (view x) :=
    congrArg (fun y => y.toBits.toBitVec) (ofView_view x).symm
  have same : @unpackExponent Format.binary64 x.abs.toBits.toBitVec =
      @unpackExponent Format.binary64 x.toBits.toBitVec := by
    rw [code]
    exact exponent_pack_abs (view x)
  rw [same]
  exact exponent_ne_of_isFinite finite

end Finite

section Number

/-- Only what is not a number is packed as such: the exponent field of every other one is not full, or
its mantissa is empty. -/
theorem view_ofView_ne (number : u ≠ .notANumber) : view (ofView u) ≠ .notANumber := by
  change UnpackedFloat.unpack Format.binary64 (UnpackedFloat.pack Format.binary64 u) ≠ .notANumber
  intro undefined
  have full : unpackExponent (UnpackedFloat.pack Format.binary64 u) = -1#_ ∧
      unpackMantissa (UnpackedFloat.pack Format.binary64 u) ≠ 0#_ := by
    unfold UnpackedFloat.unpack at undefined
    dsimp only at undefined
    split at undefined
    next full =>
      split at undefined
      next => cases undefined
      next some => exact ⟨full, some⟩
    next =>
      split at undefined
      next => split at undefined <;> cases undefined
      next => cases undefined
  obtain ⟨exponent, mantissa⟩ := full
  cases u with
  | notANumber => exact number rfl
  | infinity s => exact mantissa UnpackedFloat.unpackMantissa_packComponents
  | zero s =>
    rw [UnpackedFloat.pack, UnpackedFloat.packedZero,
      UnpackedFloat.unpackExponent_packComponents] at exponent
    exact absurd exponent (by decide)
  | finite s m e positive =>
    unfold UnpackedFloat.pack at exponent mantissa
    dsimp only at exponent mantissa
    split at exponent
    next large =>
      rw [if_pos large] at mantissa
      exact mantissa UnpackedFloat.unpackMantissa_packComponents
    next small =>
      split at exponent
      next =>
        rw [UnpackedFloat.unpackExponent_packComponents] at exponent
        have field := congrArg BitVec.toNat exponent
        have ones : (-1#_ : BitVec Format.binary64.exponentBits).toNat = 2047 := by decide
        rw [BitVec.toNat_ofNat, ones] at field
        change ¬ 2 ^ 11 ≤ _ at small
        change _ % 2 ^ 11 = 2047 at field
        omega
      next =>
        rw [UnpackedFloat.unpackExponent_packComponents] at exponent
        exact absurd exponent (by decide)

/-- The sum or difference of two finite doubles may be too large, but is a number. -/
theorem normalize_ne (m : Int) (e : Int) (s : Sign) :
    UnpackedFloat.normalize .binary64 m e s ≠ .notANumber := by
  unfold UnpackedFloat.normalize
  split
  · unfold UnpackedFloat.round UnpackedFloat.roundWithAccuracy
    dsimp only
    split <;> exact nofun
  · exact nofun
  · unfold UnpackedFloat.round UnpackedFloat.roundWithAccuracy
    dsimp only
    split <;> exact nofun

theorem sub_ne (left : u.isFinite = true) (right : v.isFinite = true) :
    UnpackedFloat.sub .binary64 u v ≠ .notANumber := by
  cases u with
  | notANumber => cases left
  | infinity s => cases left
  | zero s =>
    cases v with
    | notANumber => cases right
    | infinity t => cases right
    | zero t => cases s <;> cases t <;> exact nofun
    | finite t n f positive => exact nofun
  | finite s m e positive =>
    cases v with
    | notANumber => cases right
    | infinity t => cases right
    | zero t => exact nofun
    | finite t n f positive => exact normalize_ne _ _ _

theorem view_sub_ne (left : isFinite x = true) (right : isFinite y = true) :
    view (x - y) ≠ .notANumber :=
  view_ofView_ne (sub_ne (isFinite_iff_view.mp left) (isFinite_iff_view.mp right))

theorem view_abs_ne (number : view x ≠ .notANumber) : view x.abs ≠ .notANumber := by
  have magnitude : (view x).abs ≠ .notANumber := by
    cases same : view x with
    | notANumber => exact absurd same number
    | _ => exact nofun
  exact view_ofView_ne magnitude

theorem isZero_sub_self (finite : isFinite x = true) : isZero (x - x) = true := by
  rw [isFinite_iff_view] at finite
  change isZero (ofView (UnpackedFloat.sub .binary64 (view x) (view x))) = true
  cases same : view x with
  | notANumber => rw [same] at finite; cases finite
  | infinity s => rw [same] at finite; cases finite
  | zero s => cases s <;> exact isZero_ofView _
  | finite s m e positive =>
    have none : UnpackedFloat.sub .binary64 (.finite s m e positive) (.finite s m e positive) =
        .zero .positive := by
      simp [UnpackedFloat.sub, UnpackedFloat.normalize]
    rw [none]
    exact isZero_ofView _

/-- Numbers compare. -/
theorem compare_swap (left : u ≠ .notANumber) (right : v ≠ .notANumber) :
    ∃ o, u.compare v = some o ∧ v.compare u = some o.swap := by
  cases u with
  | notANumber => exact absurd rfl left
  | infinity s =>
    cases v with
    | notANumber => exact absurd rfl right
    | infinity t => cases s <;> cases t <;> exact ⟨_, rfl, rfl⟩
    | _ => cases s <;> exact ⟨_, rfl, rfl⟩
  | zero s =>
    cases v with
    | notANumber => exact absurd rfl right
    | zero t => exact ⟨.eq, rfl, rfl⟩
    | infinity t => cases t <;> exact ⟨_, rfl, rfl⟩
    | finite t n f positive => cases t <;> exact ⟨_, rfl, rfl⟩
  | finite s m e positive =>
    cases v with
    | notANumber => exact absurd rfl right
    | zero t => cases s <;> exact ⟨_, rfl, rfl⟩
    | infinity t => cases t <;> exact ⟨_, rfl, rfl⟩
    | finite t n f positive =>
      have back : (compare f e).then (compare n m) = ((compare e f).then (compare m n)).swap := by
        rw [Ordering.swap_then, Int.compare_swap, Nat.compare_swap]
      cases s <;> cases t
      · exact ⟨_, rfl, congrArg (some ∘ Ordering.swap) back⟩
      · exact ⟨_, rfl, rfl⟩
      · exact ⟨_, rfl, rfl⟩
      · exact ⟨_, rfl, congrArg some back⟩

theorem le_iff_view : x ≤ y ↔ ((view x).compare (view y)).any (·.isLE) = true := by
  change decide (x.toModel ≤ y.toModel) = true ↔ _
  rw [decide_eq_true_iff]
  exact Iff.rfl

theorem le_of_not_lt (left : view x ≠ .notANumber) (right : view y ≠ .notANumber)
    (less : ¬ x < y) : y ≤ x := by
  obtain ⟨o, forward, back⟩ := compare_swap left right
  rw [lt_iff_view, forward] at less
  rw [le_iff_view, back]
  cases o with
  | lt => exact absurd rfl less
  | eq => rfl
  | gt => rfl

theorem atMost_iff : Approximate.atMost x y = true ↔ x ≤ y := by
  change (decide (x < y) || x == y) = true ↔ _
  have equal : (x == y) = ((view x).compare (view y) == some .eq) := rfl
  rw [le_iff_view, Bool.or_eq_true, decide_eq_true_iff, lt_iff_view, equal]
  cases (view x).compare (view y) with
  | none => simp
  | some o => cases o <;> simp

end Number

end RootFinder.Binary64
