import Mathlib
import RootFinder.Binary64

/-! A double and its code determine each other, so a finite double is exactly a sign and a rank.
Only the codes above the infinite rank are not kept: they are all the undefined one. -/
namespace RootFinder.Binary64

open Float.Model (UnpackedFloat Format)
open Float.Model.UnpackedFloat (unpackSign unpackExponent unpackMantissa packComponents Sign)

theorem toNat_mantissa (b : BitVec Format.binary64.numBits) :
    (unpackMantissa b).toNat = b.toNat % 2 ^ 52 := by
  simp [unpackMantissa]

theorem toNat_exponent (b : BitVec Format.binary64.numBits) :
    (unpackExponent b).toNat = b.toNat / 2 ^ 52 % 2 ^ 11 := by
  simp [unpackExponent, Nat.shiftRight_eq_div_pow]

theorem toNat_sign (b : BitVec Format.binary64.numBits) :
    (unpackSign b).toNat = b.toNat / 2 ^ 63 % 2 := by
  simp [unpackSign, Nat.shiftRight_eq_div_pow]

private theorem toBitVec_ofBitVec (s : BitVec 1) : (Sign.ofBitVec s).toBitVec = s := by
  revert s
  decide

theorem toNat_join {m n : Nat} (a : BitVec m) (b : BitVec n) :
    (a ++ b).toNat = a.toNat * 2 ^ n + b.toNat := by
  rw [BitVec.toNat_append, ← Nat.shiftLeft_add_eq_or_of_lt b.isLt, Nat.shiftLeft_eq]

/-- The three fields of a code, put together again. -/
theorem pack_fields (b : BitVec Format.binary64.numBits) :
    packComponents Format.binary64 (Sign.ofBitVec (unpackSign b)) (unpackExponent b)
      (unpackMantissa b) = b := by
  rw [packComponents, toBitVec_ofBitVec]
  apply BitVec.eq_of_toNat_eq
  have bound : b.toNat < 2 ^ 64 := b.isLt
  rw [toNat_join, toNat_join, toNat_mantissa, toNat_exponent, toNat_sign]
  change (b.toNat / 2 ^ 63 % 2 * 2 ^ 11 + b.toNat / 2 ^ 52 % 2 ^ 11) * 2 ^ 52 + b.toNat % 2 ^ 52 =
    b.toNat
  omega

private theorem pack_fields_of {b : BitVec Format.binary64.numBits} {e : BitVec 11}
    {m : BitVec 52} (he : unpackExponent b = e) (hm : unpackMantissa b = m) :
    packComponents Format.binary64 (Sign.ofBitVec (unpackSign b)) e m = b := by
  subst e m
  exact pack_fields b

/-- Below the normal magnitudes the exponent field is zero and the unit bit is not implied. -/
theorem pack_subnormal {m : Nat} (s : Sign) (positive : 0 < m) (small : m < 2 ^ 52) :
    UnpackedFloat.pack Format.binary64 (.finite s m (-1074) positive) =
      packComponents Format.binary64 s 0#_ (BitVec.ofNat _ m) := by
  have bits : m.log2 < 52 := (Nat.log2_lt positive.ne').mpr small
  have biased : (-1074 + (Format.binary64.exponentBias : Int)
      + (Format.binary64.mantissaBitsWithoutImplicit : Int)).toNat = 1 := by decide
  have width : Format.binary64.mantissaBits = 53 := by decide
  rw [UnpackedFloat.pack]
  simp only [biased, width]
  rw [if_neg (by decide), if_neg (by omega)]

theorem pack_normal {m e : Nat} (s : Sign) (positive : 0 < m) (low : 2 ^ 52 ≤ m)
    (high : m < 2 ^ 53) (bound : e < 2047) :
    UnpackedFloat.pack Format.binary64 (.finite s m (e - 1075) positive) =
      packComponents Format.binary64 s (BitVec.ofNat _ e) (BitVec.ofNat _ m) := by
  have bits : m.log2 = 52 := (Nat.log2_eq_iff positive.ne').mpr ⟨low, high⟩
  have bias : (Format.binary64.exponentBias : Int) = 1023 := by decide
  have places : (Format.binary64.mantissaBitsWithoutImplicit : Int) = 52 := by decide
  have biased : ((e : Int) - 1075 + (Format.binary64.exponentBias : Int)
      + (Format.binary64.mantissaBitsWithoutImplicit : Int)).toNat = e := by
    omega
  have width : Format.binary64.mantissaBits = 53 := by decide
  have room : ¬ 2 ^ Format.binary64.exponentBits ≤ e + 1 := by
    change ¬ 2 ^ 11 ≤ e + 1
    omega
  rw [UnpackedFloat.pack]
  simp only [biased, width, bits]
  rw [if_neg room, if_pos trivial]

/-- The exponent of a double whose code has the field `e` there, apart from the smallest ones. -/
private def exponentOfField (e : Nat) : Int :=
  (e : Int) - ((Format.binary64.exponentBias : Int)
    + (Format.binary64.mantissaBitsWithoutImplicit : Int))

private theorem exponentOfField_eq (e : Nat) : exponentOfField e = e - 1075 := by
  have bias : (Format.binary64.exponentBias : Int) = 1023 := by decide
  have places : (Format.binary64.mantissaBitsWithoutImplicit : Int) = 52 := by decide
  rw [exponentOfField, bias, places]
  omega

private theorem pack_unpacked_subnormal {b : BitVec Format.binary64.numBits}
    (empty : unpackExponent b = 0#_) (positive : 0 < (unpackMantissa b).toNat) :
    UnpackedFloat.pack Format.binary64 (.finite (Sign.ofBitVec (unpackSign b))
      (unpackMantissa b).toNat (exponentOfField (unpackExponent b).toNat + 1) positive) = b := by
  have exponent : exponentOfField (unpackExponent b).toNat + 1 = -1074 := by
    rw [exponentOfField_eq, empty]
    rfl
  simp only [exponent]
  rw [pack_subnormal _ _ (unpackMantissa b).isLt, BitVec.ofNat_toNat, BitVec.setWidth_eq]
  exact pack_fields_of empty rfl

private theorem pack_unpacked_normal {b : BitVec Format.binary64.numBits}
    (notFull : unpackExponent b ≠ BitVec.allOnes _)
    (positive : 0 < (1#1 ++ unpackMantissa b).toNat) :
    UnpackedFloat.pack Format.binary64 (.finite (Sign.ofBitVec (unpackSign b))
      (1#1 ++ unpackMantissa b).toNat (exponentOfField (unpackExponent b).toNat) positive) = b := by
  have bound : (unpackExponent b).toNat < 2047 := by
    have below : (unpackExponent b).toNat < 2048 := (unpackExponent b).isLt
    have other : (unpackExponent b).toNat ≠ 2047 := fun h => notFull (BitVec.eq_of_toNat_eq h)
    omega
  have mantissa : (1#1 ++ unpackMantissa b).toNat = 2 ^ 52 + (unpackMantissa b).toNat := by
    rw [toNat_join]
    rfl
  have fits : (unpackMantissa b).toNat < 2 ^ 52 := (unpackMantissa b).isLt
  simp only [exponentOfField_eq, mantissa]
  rw [pack_normal _ _ (by omega) (by omega) bound]
  apply pack_fields_of
  · rw [BitVec.ofNat_toNat, BitVec.setWidth_eq]
  · apply BitVec.eq_of_toNat_eq
    change (unpackMantissa b).toNat = (2 ^ 52 + (unpackMantissa b).toNat) % 2 ^ 52
    omega

/-- Taking a valid code apart loses nothing. -/
theorem pack_unpack {b : BitVec Format.binary64.numBits} (valid : Format.binary64.Valid b) :
    UnpackedFloat.pack Format.binary64 (UnpackedFloat.unpack Format.binary64 b) = b := by
  unfold UnpackedFloat.unpack
  dsimp only
  split
  · rename_i full
    split
    · rename_i none
      exact pack_fields_of full none
    · rename_i some
      exact (valid.eq_packedNaN full some).symm
  · rename_i notFull
    split
    · rename_i empty
      split
      · rename_i none
        exact pack_fields_of empty none
      · exact pack_unpacked_subnormal empty _
    · exact pack_unpacked_normal notFull _

/-- Codes up to the infinite rank, of either sign, are valid. -/
private theorem valid_of_rank {b : BitVec Format.binary64.numBits}
    (h : b.toNat % signPlace ≤ infinity) : Format.binary64.Valid b := by
  refine ⟨fun full some => absurd ?_ some⟩
  have e := toNat_exponent b
  have m := toNat_mantissa b
  rw [full] at e
  change 2047 = _ at e
  apply BitVec.eq_of_toNat_eq
  rw [m]
  simp only [signPlace, infinity] at h
  change b.toNat % 2 ^ 52 = 0
  omega

theorem toBits_ofBits {u : UInt64} (h : u.toNat % signPlace ≤ infinity) :
    (Float.ofBits u).toBits = u := by
  have same := pack_unpack (valid_of_rank (b := u.toBitVec) h)
  exact congrArg UInt64.ofBitVec same

theorem ofBits_toBits (x : Float) : Float.ofBits x.toBits = x := by
  obtain ⟨⟨bits, valid⟩⟩ := x
  have same : UInt64.ofBitVec
      (UnpackedFloat.pack Format.binary64 (UnpackedFloat.unpack Format.binary64 bits.toBitVec)) =
        bits := congrArg UInt64.ofBitVec (pack_unpack valid)
  simp only [Float.toBits, Float.ofBits, Float.Model.ofBits, Float.Model.pack, same]

theorem toBits_make (negative : Bool) {rank : Nat} (h : rank ≤ infinity) :
    (make negative rank).toBits.toNat = rank + if negative then signPlace else 0 := by
  have bound : rank + (if negative then signPlace else 0) < 2 ^ 64 := by
    simp only [infinity, signPlace] at *
    split <;> omega
  have code : (UInt64.ofNat (rank + if negative then signPlace else 0)).toNat =
      rank + if negative then signPlace else 0 := by
    rw [UInt64.toNat_ofNat', Nat.mod_eq_of_lt bound]
  rw [make, toBits_ofBits, code]
  rw [code]
  simp only [infinity, signPlace] at *
  split <;> omega

/-- A double made of a sign and a finite rank is taken apart into them. -/
theorem parts_make {rank : Nat} (negative : Bool) (h : rank < infinity) :
    parts (make negative rank) = .finite negative rank := by
  have code := toBits_make negative h.le
  have inner : (make negative rank).toBits.toNat % signPlace = rank := by
    rw [code]
    simp only [infinity, signPlace] at *
    split <;> omega
  have outer : decide (signPlace ≤ (make negative rank).toBits.toNat) = negative := by
    rw [code]
    simp only [infinity, signPlace] at *
    cases negative <;> simp only [Bool.false_eq_true, if_true, if_false, decide_eq_true_eq,
      decide_eq_false_iff_not] <;> omega
  simp only [parts, inner, outer, if_pos h]

theorem parts_make_infinity (negative : Bool) :
    parts (make negative infinity) = .infinite negative := by
  revert negative
  decide +kernel

theorem parts_finite {x : Float} {negative : Bool} {rank : Nat}
    (h : parts x = .finite negative rank) : rank < infinity ∧ make negative rank = x := by
  simp only [parts] at h
  split at h
  · rename_i small
    cases h
    refine ⟨small, ?_⟩
    have code : x.toBits.toNat % signPlace
        + (if decide (signPlace ≤ x.toBits.toNat) then signPlace else 0) = x.toBits.toNat := by
      have bound := x.toBits.toNat_lt
      by_cases below : signPlace ≤ x.toBits.toNat
      · rw [decide_eq_true below, if_pos rfl]
        simp only [signPlace] at *
        omega
      · rw [decide_eq_false below, if_neg Bool.false_ne_true]
        simp only [signPlace] at *
        omega
    rw [make, code, UInt64.ofNat_toNat, ofBits_toBits]
  · split at h <;> cases h

theorem isFinite_iff {x : Float} :
    isFinite x = true ↔ ∃ negative rank, parts x = .finite negative rank := by
  unfold isFinite
  cases parts x <;> simp

theorem isFinite_make {negative : Bool} {rank : Nat} (h : rank < infinity) :
    isFinite (make negative rank) = true :=
  isFinite_iff.mpr ⟨negative, rank, parts_make negative h⟩

theorem ofDecimal_le (d : Decimal) : ofDecimal d ≤ infinity := by
  unfold ofDecimal
  dsimp only
  split
  · exact Nat.zero_le _
  · split
    · exact Nat.le_refl _
    · split
      · exact Nat.zero_le _
      · exact Nat.min_le_left _ _

/-- Reading gives a finite double unless the decimal is too large. -/
theorem isFinite_read {negative : Bool} {d : Decimal} :
    isFinite (read negative d) = true ↔ ofDecimal d < infinity := by
  constructor
  · intro finite
    rcases Nat.lt_or_eq_of_le (ofDecimal_le d) with below | same
    · exact below
    · rw [read, same, isFinite, parts_make_infinity] at finite
      cases finite
  · exact isFinite_make

theorem isZero_iff {x : Float} : isZero x = true ↔ ∃ negative, parts x = .finite negative 0 := by
  unfold isZero
  cases parts x <;> simp

theorem isFinite_of_isZero {x : Float} (zero : isZero x = true) : isFinite x = true := by
  obtain ⟨negative, same⟩ := isZero_iff.mp zero
  exact isFinite_iff.mpr ⟨negative, 0, same⟩

end RootFinder.Binary64
