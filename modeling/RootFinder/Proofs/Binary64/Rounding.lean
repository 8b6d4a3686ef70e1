import Mathlib
import RootFinder.Proofs.Binary64.View
import RootFinder.Proofs.Binary64.Reading

/-! Rounding. Core shifts a magnitude to the places of a double and keeps two bits of what it drops;
the result is the rank nearest to the magnitude. A larger magnitude has no smaller rank. -/
namespace RootFinder

theorem roundDiv_mono {a b : Nat} (den : Nat) (h : a ≤ b) :
    roundDiv a den ≤ roundDiv b den := by
  have quotients : a / den ≤ b / den := Nat.div_le_div_right h
  have first := Nat.div_add_mod a den
  have second := Nat.div_add_mod b den
  unfold roundDiv
  dsimp only
  rcases Nat.lt_or_eq_of_le quotients with less | same
  · split <;> split <;> (try split) <;> (try split) <;> omega
  · rw [same] at first ⊢
    have rests : a % den ≤ b % den := by omega
    split <;> split <;> (try split) <;> (try split) <;> omega

namespace Binary64

open Float.Model (UnpackedFloat Format totalExponent)
open Float.Model.UnpackedFloat (ExtendedMantissa Accuracy Sign shiftToExponent
  shiftToTargetExponent decreaseExponent roundWithAccuracy)

section Shifting

/-- A number without its last places. The two bits compare the rest with a half. -/
structure Shifted (num places : Nat) (em : ExtendedMantissa) : Prop where
  mantissa : em.mantissa = num / 2 ^ places
  half : em.roundBit = true ↔ 2 ^ places ≤ 2 * (num % 2 ^ places)
  more : em.stickyBit = true ↔
    2 * (num % 2 ^ places) ≠ if em.roundBit = true then 2 ^ places else 0

theorem Shifted.exact (num : Nat) : Shifted num 0 ⟨num, false, false⟩ where
  mantissa := by simp
  half := by simp [Nat.mod_one]
  more := by simp [Nat.mod_one]

theorem Shifted.shiftRightOne {num places : Nat} {em : ExtendedMantissa}
    (h : Shifted num places em) : Shifted num (places + 1) em.shiftRightOne := by
  have rest : num % 2 ^ (places + 1) = num % 2 ^ places + 2 ^ places * (num / 2 ^ places % 2) := by
    rw [pow_succ, Nat.mod_mul]
  have below : num % 2 ^ places < 2 ^ places := Nat.mod_lt _ (Nat.two_pow_pos _)
  have double : 2 ^ (places + 1) = 2 * 2 ^ places := by rw [pow_succ, Nat.mul_comm]
  have dropped : (em.roundBit || em.stickyBit) = true ↔ num % 2 ^ places ≠ 0 := by
    have half := h.half
    have more := h.more
    rw [Bool.or_eq_true, more]
    cases bit : em.roundBit <;> simp only [bit, reduceIte, Bool.false_eq_true, true_iff,
      false_iff, false_or, true_or] at half ⊢ <;> omega
  refine ⟨?_, ?_, ?_⟩
  · rw [ExtendedMantissa.shiftRightOne, h.mantissa, Nat.div_div_eq_div_mul, pow_succ]
  · simp only [ExtendedMantissa.shiftRightOne, h.mantissa, bne_iff_ne]
    rcases Nat.mod_two_eq_zero_or_one (num / 2 ^ places) with even | odd
    · rw [rest, even]
      omega
    · rw [rest, odd]
      omega
  · simp only [ExtendedMantissa.shiftRightOne, h.mantissa, bne_iff_ne, dropped]
    rcases Nat.mod_two_eq_zero_or_one (num / 2 ^ places) with even | odd
    · rw [rest, even, if_neg (by simp)]
      omega
    · rw [rest, odd, if_pos (by simp)]
      omega

theorem shifted_shiftRight (num places : Nat) :
    Shifted num places ((⟨num, false, false⟩ : ExtendedMantissa) >>> places) := by
  change Shifted num places (places.repeat ExtendedMantissa.shiftRightOne ⟨num, false, false⟩)
  induction places with
  | zero => exact .exact num
  | succ places ih => exact ih.shiftRightOne

theorem Shifted.roundedMantissa {num places : Nat} {em : ExtendedMantissa}
    (h : Shifted num places em) : em.roundedMantissa = roundDiv num (2 ^ places) := by
  obtain ⟨mantissa, half, more⟩ := h
  obtain ⟨m, round, sticky⟩ := em
  dsimp only at mantissa half more
  subst mantissa
  unfold roundDiv
  cases round <;> cases sticky <;> simp at half more
  · rw [if_pos (by omega)]
    rfl
  · rw [if_pos (by omega)]
    rfl
  · rw [if_neg (by omega), if_neg (by omega)]
    rfl
  · rw [if_neg (by omega), if_pos (by omega)]
    rfl

end Shifting

/-- The places that a magnitude has more than a double. -/
def excess (size : Nat) : Nat := size.log2 - 52

/-- The rank nearest to a number of units. -/
def rankOf (size : Nat) : Nat := excess size * 2 ^ 52 + roundDiv size (2 ^ excess size)

theorem rankOf_eq_nearest (size : Nat) : rankOf size = nearest size one := by
  have quotient : size * one / one = size := Nat.mul_div_cancel _ one_pos
  unfold nearest
  dsimp only
  rw [quotient, Nat.mul_comm one, roundDiv_scale _ _ one_pos]
  rfl

theorem rankOf_units (rank : Nat) : rankOf (units rank) = rank := by
  rw [rankOf_eq_nearest]
  exact nearest_units one_pos rfl

theorem log2_mul_two_pow {m : Nat} (positive : 0 < m) (k : Nat) :
    (m * 2 ^ k).log2 = m.log2 + k := by
  rw [Nat.log2_eq_iff (Nat.mul_pos positive (Nat.two_pow_pos k)).ne']
  have low := Nat.log2_self_le positive.ne'
  have high := Nat.lt_log2_self (n := m)
  constructor
  · rw [pow_add]
    exact Nat.mul_le_mul_right _ low
  · rw [Nat.add_right_comm, pow_add]
    exact Nat.mul_lt_mul_of_pos_right high (Nat.two_pow_pos k)

section Core

/-- The size in units of a mantissa with an exponent. -/
def sizeOf (m : Nat) (e : Int) : Nat := m * 2 ^ (e + 1074).toNat

/-- Core keeps a magnitude at the exponent that its excess says. -/
theorem targetExponent_eq {m : Nat} {e : Int} (positive : 0 < m) (fine : -1074 ≤ e) :
    Format.binary64.targetExponent (totalExponent m e) = excess (sizeOf m e) - 1074 := by
  have width : (Format.binary64.mantissaBits : Int) = 53 := by decide
  have least : Format.binary64.minExponent = -1074 := by decide
  simp only [Format.targetExponent, totalExponent, width, least, excess, sizeOf,
    log2_mul_two_pow positive]
  omega

/-- The mantissa of the rank nearest to a size fits into 53 bits, or is a power of two. -/
theorem mantissa_bounds {size : Nat} (positive : 0 < size) :
    0 < roundDiv size (2 ^ excess size) ∧ roundDiv size (2 ^ excess size) ≤ 2 ^ 53 ∧
      (roundDiv size (2 ^ excess size) < 2 ^ 52 → excess size = 0) := by
  have near := @roundDiv_near size _ (Nat.two_pow_pos (excess size))
  by_cases wide : excess size = 0
  · have bits : size.log2 < 53 := by
      unfold excess at wide
      omega
    have small := (Nat.log2_lt positive.ne').mp bits
    rw [wide] at near ⊢
    omega
  · have low := Nat.log2_self_le positive.ne'
    have high := Nat.lt_log2_self (n := size)
    have bits : size.log2 = 52 + excess size := by
      unfold excess at wide ⊢
      omega
    rw [bits] at low high
    rw [Nat.add_right_comm] at high
    rw [pow_add] at low high
    have unit := Nat.two_pow_pos (excess size)
    refine ⟨?_, ?_, ?_⟩
    · apply Nat.pos_of_ne_zero
      intro none
      rw [none] at near
      omega
    · by_contra large
      have step : (2 ^ 53 + 1) * 2 ^ excess size ≤
          roundDiv size (2 ^ excess size) * 2 ^ excess size :=
        Nat.mul_le_mul_right _ (by omega)
      omega
    · intro small
      have step : roundDiv size (2 ^ excess size) * 2 ^ excess size ≤
          (2 ^ 52 - 1) * 2 ^ excess size := Nat.mul_le_mul_right _ (by omega)
      omega

def Sign.isNegative : Sign → Bool
  | .negative => true
  | .positive => false

theorem toNat_packComponents (s : Sign) (e : BitVec 11) (m : BitVec 52) :
    (UnpackedFloat.packComponents Format.binary64 s e m).toNat =
      e.toNat * 2 ^ 52 + m.toNat + if Sign.isNegative s then signPlace else 0 := by
  rw [UnpackedFloat.packComponents, toNat_join, toNat_join]
  cases s
  · change (1 * 2 ^ 11 + e.toNat) * 2 ^ 52 + m.toNat = _ + 2 ^ 63
    omega
  · change (0 * 2 ^ 11 + e.toNat) * 2 ^ 52 + m.toNat = _ + 0
    omega

theorem ofView_eq_make {u : UnpackedFloat} {negative : Bool} {rank : Nat}
    (code : (UnpackedFloat.pack Format.binary64 u).toNat =
      rank + if negative then signPlace else 0) : ofView u = make negative rank := by
  rw [← ofBits_toBits (ofView u), make, ← code]
  apply congrArg
  change UInt64.ofBitVec _ = _
  rw [UInt64.ofNat, BitVec.ofNat_toNat]
  rfl

/-- A magnitude in the form of a double has the rank that exponent and mantissa say. -/
theorem ofView_finite (s : Sign) {m : Nat} {e : Int} (positive : 0 < m) (fine : -1074 ≤ e)
    (fits : m < 2 ^ 53) (normal : m < 2 ^ 52 → e = -1074) :
    ofView (.finite s m e positive) =
      make (Sign.isNegative s) (min infinity ((e + 1074).toNat * 2 ^ 52 + m)) := by
  apply ofView_eq_make
  by_cases small : m < 2 ^ 52
  · obtain rfl := normal small
    rw [pack_subnormal s positive small, toNat_packComponents]
    have mantissa : (BitVec.ofNat 52 m).toNat = m := by
      rw [BitVec.toNat_ofNat, Nat.mod_eq_of_lt small]
    change 0 * 2 ^ 52 + (BitVec.ofNat 52 m).toNat + _ = _
    simp only [infinity]
    omega
  · by_cases finite : e < 972
    · obtain ⟨n, rfl⟩ : ∃ n : Nat, e = n - 1075 := ⟨(e + 1075).toNat, by omega⟩
      rw [pack_normal s positive (Nat.not_lt.mp small) fits (by omega), toNat_packComponents]
      have mantissa : (BitVec.ofNat 52 m).toNat = m - 2 ^ 52 := by
        rw [BitVec.toNat_ofNat]
        omega
      have exponent : (BitVec.ofNat 11 n).toNat = n := by
        rw [BitVec.toNat_ofNat]
        omega
      simp only [infinity]
      omega
    · have full : 2 ^ Format.binary64.exponentBits ≤
          (e + Format.binary64.exponentBias + Format.binary64.mantissaBitsWithoutImplicit).toNat
            + 1 := by
        have bias : (Format.binary64.exponentBias : Int) = 1023 := by decide
        have places : (Format.binary64.mantissaBitsWithoutImplicit : Int) = 52 := by decide
        change 2 ^ 11 ≤ _
        rw [bias, places]
        omega
      rw [UnpackedFloat.pack, if_pos full, UnpackedFloat.packedInfinity, toNat_packComponents]
      simp only [infinity]
      change 2047 * 2 ^ 52 + 0 + _ = _
      omega

theorem shiftToTargetExponent_eq {m shift : Nat} {e : Int}
    (amount : (Format.binary64.targetExponent (totalExponent m e) - e).toNat = shift) :
    shiftToTargetExponent Format.binary64 m e .exact =
      ((⟨m, false, false⟩ : ExtendedMantissa) >>> shift, e + shift) := by
  subst shift
  rfl

/-- A mantissa that fits is not shifted any more, and one that has been rounded up to the next power
of two is shifted by one place. -/
theorem ofView_carried (s : Sign) {m : Nat} {e : Int} (positive : 0 < m) (fine : -1074 ≤ e)
    (fits : m ≤ 2 ^ 53) (normal : m < 2 ^ 52 → e = -1074) :
    ofView (let (em, exponent) := shiftToTargetExponent Format.binary64 m e .exact
      if h : em.mantissa = 0 then .zero s
      else .finite s em.mantissa exponent (Nat.pos_of_ne_zero h)) =
      make (Sign.isNegative s) (min infinity ((e + 1074).toNat * 2 ^ 52 + m)) := by
  have width : (Format.binary64.mantissaBits : Int) = 53 := by decide
  have least : Format.binary64.minExponent = -1074 := by decide
  rcases Nat.lt_or_eq_of_le fits with within | carried
  · have bits : m.log2 < 53 := (Nat.log2_lt positive.ne').mpr within
    have shift : (Format.binary64.targetExponent (totalExponent m e) - e).toNat = 0 := by
      simp only [Format.targetExponent, totalExponent, width, least]
      omega
    have kept : shiftToTargetExponent Format.binary64 m e .exact = (⟨m, false, false⟩, e) := by
      rw [shiftToTargetExponent_eq shift]
      exact Prod.ext rfl (Int.add_zero e)
    rw [kept]
    dsimp only
    rw [dif_neg positive.ne']
    exact ofView_finite s positive fine within normal
  · have shift : (Format.binary64.targetExponent (totalExponent m e) - e).toNat = 1 := by
      have bits : m.log2 = 53 := by rw [carried, Nat.log2_two_pow]
      simp only [Format.targetExponent, totalExponent, width, least, bits]
      omega
    have halved : shiftToTargetExponent Format.binary64 m e .exact =
        (⟨2 ^ 52, false, false⟩, e + 1) := by
      rw [shiftToTargetExponent_eq shift, carried]
      rfl
    have half : 0 < 2 ^ 52 := Nat.two_pow_pos 52
    have rank : (e + 1 + 1074).toNat * 2 ^ 52 + 2 ^ 52 = (e + 1074).toNat * 2 ^ 52 + 2 ^ 53 := by
      omega
    rw [halved]
    dsimp only
    rw [dif_neg half.ne', ofView_finite s half (by omega) (by omega) (by omega), carried, rank]

/-- Core rounds a magnitude to its nearest rank, from an exponent that is not too large. -/
theorem ofView_roundWithAccuracy (s : Sign) {m : Nat} {e : Int} (positive : 0 < m)
    (fine : -1074 ≤ e) (small : e + 1074 ≤ excess (sizeOf m e)) :
    ofView (roundWithAccuracy Format.binary64 s m e .exact) =
      make (Sign.isNegative s) (min infinity (rankOf (sizeOf m e))) := by
  have target := targetExponent_eq positive fine
  have size : 0 < sizeOf m e := Nat.mul_pos positive (Nat.two_pow_pos _)
  obtain ⟨begun, fits, normal⟩ := mantissa_bounds size
  obtain ⟨places, far⟩ : ∃ places : Nat, (excess (sizeOf m e) : Int) = e + 1074 + places :=
    ⟨(excess (sizeOf m e) - (e + 1074)).toNat, by omega⟩
  have first : shiftToTargetExponent Format.binary64 m e .exact =
      ((⟨m, false, false⟩ : ExtendedMantissa) >>> places, e + places) := by
    apply shiftToTargetExponent_eq
    rw [target]
    omega
  have rounded : ((⟨m, false, false⟩ : ExtendedMantissa) >>> places).roundedMantissa =
      roundDiv (sizeOf m e) (2 ^ excess (sizeOf m e)) := by
    have power : excess (sizeOf m e) = places + (e + 1074).toNat := by omega
    rw [(shifted_shiftRight m places).roundedMantissa, power, pow_add, sizeOf,
      roundDiv_scale _ _ (Nat.two_pow_pos _)]
  unfold roundWithAccuracy
  rw [first]
  dsimp only
  rw [rounded]
  have exponent : (e + places + 1074).toNat = excess (sizeOf m e) := by omega
  refine (ofView_carried s begun (by omega) fits fun less => ?_).trans ?_
  · have none := normal less
    omega
  · rw [rankOf, exponent]

/-- Core rounds a magnitude to its nearest rank. -/
theorem ofView_round (s : Sign) {m : Nat} {e : Int} (positive : 0 < m) (fine : -1074 ≤ e) :
    ofView (UnpackedFloat.round Format.binary64 s m e) =
      make (Sign.isNegative s) (min infinity (rankOf (sizeOf m e))) := by
  have target := targetExponent_eq positive fine
  unfold UnpackedFloat.round
  rw [target]
  unfold decreaseExponent
  dsimp only
  -- the exponent is made smaller first, which leaves the size as it is
  obtain ⟨shift, amount⟩ : ∃ shift : Nat, (e - (excess (sizeOf m e) - 1074)).toNat = shift :=
    ⟨_, rfl⟩
  rw [amount]
  have lower : (e - shift + 1074).toNat + shift = (e + 1074).toNat := by omega
  have same : sizeOf (m <<< shift) (e - shift) = sizeOf m e := by
    rw [sizeOf, sizeOf, Nat.shiftLeft_eq, Nat.mul_assoc, ← pow_add, Nat.add_comm, lower]
  have moved : 0 < m <<< shift := by
    rw [Nat.shiftLeft_eq]
    exact Nat.mul_pos positive (Nat.two_pow_pos _)
  rw [ofView_roundWithAccuracy s moved (by omega) (by rw [same]; omega), same]

end Core

/-- A larger size has no smaller rank. -/
theorem rankOf_mono {a b : Nat} (positive : 0 < a) (h : a ≤ b) : rankOf a ≤ rankOf b := by
  have bits : a.log2 ≤ b.log2 :=
    (Nat.le_log2 (by omega)).mpr (le_trans (Nat.log2_self_le positive.ne') h)
  have wider : excess a ≤ excess b := Nat.sub_le_sub_right bits 52
  obtain ⟨-, upper, -⟩ := mantissa_bounds positive
  obtain ⟨-, -, normal⟩ := mantissa_bounds (Nat.lt_of_lt_of_le positive h)
  unfold rankOf
  rcases Nat.lt_or_eq_of_le wider with more | same
  · have lower : 2 ^ 52 ≤ roundDiv b (2 ^ excess b) := by
      by_contra less
      have none := normal (Nat.not_le.mp less)
      omega
    omega
  · rw [same]
    exact Nat.add_le_add_left (roundDiv_mono _ h) _

end Binary64

end RootFinder
