import Mathlib
import RootFinder.Proofs.Binary64.Code

/-! Doubles as the operations see them: an undefined number, an infinity, a zero, or a mantissa with
an exponent. -/
namespace RootFinder.Binary64

open Float.Model (UnpackedFloat Format)
open Float.Model.UnpackedFloat (Sign unpackExponent)

def view (x : Float) : UnpackedFloat := x.toModel.unpack

def ofView (u : UnpackedFloat) : Float := ⟨Float.Model.pack u⟩

theorem ofView_view (x : Float) : ofView (view x) = x := ofBits_toBits x

theorem isZero_ofView (s : Sign) : isZero (ofView (.zero s)) = true := by
  cases s <;> decide +kernel

theorem isZero_iff_view {x : Float} : isZero x = true ↔ ∃ s, view x = .zero s := by
  constructor
  · intro zero
    obtain ⟨negative, same⟩ := isZero_iff.mp zero
    rw [← (parts_finite same).2]
    cases negative
    · exact ⟨.positive, rfl⟩
    · exact ⟨.negative, rfl⟩
  · rintro ⟨s, same⟩
    rw [← ofView_view x, same]
    exact isZero_ofView s

theorem isZero_of_view {x : Float} (apart : ∀ s, view x ≠ .zero s) : isZero x = false := by
  apply Bool.eq_false_iff.mpr
  intro zero
  obtain ⟨s, same⟩ := isZero_iff_view.mp zero
  exact apart s same

/-- The zeros equal zero, and nothing else does. -/
theorem beq_zero (x : Float) : (x == 0) = isZero x := by
  change (UnpackedFloat.compare (view x) (.zero .positive) == some .eq) = isZero x
  cases same : view x with
  | zero s =>
    rw [isZero_iff_view.mpr ⟨s, same⟩]
    rfl
  | notANumber =>
    rw [isZero_of_view (by simp [same])]
    rfl
  | infinity s =>
    rw [isZero_of_view (by simp [same])]
    cases s <;> rfl
  | finite s m e positive =>
    rw [isZero_of_view (by simp [same])]
    cases s <;> rfl

theorem lt_iff_view {x y : Float} :
    x < y ↔ ((view x).compare (view y) == some .lt) = true := by
  change decide (x.toModel < y.toModel) = true ↔ _
  rw [decide_eq_true_iff]
  exact Iff.rfl

/-- A code whose exponent field is not full is that of a finite double. -/
theorem isFinite_of_exponent {x : Float}
    (notFull : @unpackExponent Format.binary64 x.toBits.toBitVec ≠
      BitVec.allOnes _) : isFinite x = true := by
  have field := toNat_exponent x.toBits.toBitVec
  have small : (@unpackExponent Format.binary64 x.toBits.toBitVec).toNat ≠
      2047 := fun same => notFull (BitVec.eq_of_toNat_eq same)
  have rank : x.toBits.toNat % signPlace < infinity := by
    rw [field] at small
    change ¬ x.toBits.toNat / 2 ^ 52 % 2 ^ 11 = 2047 at small
    simp only [signPlace, infinity]
    omega
  simp only [isFinite, parts, if_pos rank]

theorem isFinite_eq (x : Float) : x.isFinite = isFinite x := by
  change (view x).isFinite = isFinite x
  have packed := ofView_view x
  cases same : view x with
  | zero s => exact (isFinite_of_isZero (isZero_iff_view.mpr ⟨s, same⟩)).symm
  | notANumber =>
    rw [← packed, same]
    decide +kernel
  | infinity s =>
    rw [← packed, same]
    cases s <;> decide +kernel
  | finite s m e positive =>
    refine (isFinite_of_exponent fun full => ?_).symm
    unfold view Float.Model.unpack UnpackedFloat.unpack at same
    dsimp only at same
    split at same
    · split at same <;> cases same
    · rename_i notFull
      exact notFull full

end RootFinder.Binary64
