import Mathlib
import RootFinder.Proofs.Binary64.Rounding

/-! Sums of magnitudes, that is of doubles without a sign. Their order is that of the ranks, and the
rank of a sum is the one nearest to the sum of the sizes; so larger summands give no smaller sum. -/
namespace RootFinder.Binary64

open Float.Model (UnpackedFloat Format)
open Float.Model.UnpackedFloat (Sign unpackExponent unpackMantissa unpackSign decreaseExponent)

section View

variable {rank : Nat}

theorem view_zero : view (make false 0) = .zero .positive := by rfl

theorem view_infinity : view (make false infinity) = .infinity .positive := by rfl

/-- Core takes a magnitude apart into the mantissa and the exponent that make up its rank. -/
theorem view_make (positive : 0 < rank) (finite : rank < infinity) :
    ∃ m e h, view (make false rank) = .finite .positive m e h ∧ -1074 ≤ e ∧ m < 2 ^ 53 ∧
      (m < 2 ^ 52 → e = -1074) ∧ rank = (e + 1074).toNat * 2 ^ 52 + m := by
  have code : (make false rank).toBits.toBitVec.toNat = rank := toBits_make false finite.le
  simp only [infinity] at finite
  change ∃ m e h, UnpackedFloat.unpack Format.binary64 (make false rank).toBits.toBitVec = _ ∧ _
  generalize (make false rank).toBits.toBitVec = b at code
  have exponent := toNat_exponent b
  have mantissa := toNat_mantissa b
  have sign : Sign.ofBitVec (@unpackSign Format.binary64 b) = .positive := by
    have bit := toNat_sign b
    have below : b.toNat / 2 ^ 63 % 2 = 0 := by omega
    have none : @unpackSign Format.binary64 b = 0#1 := BitVec.eq_of_toNat_eq (bit.trans below)
    rw [none]
    rfl
  have notFull : @unpackExponent Format.binary64 b ≠ -1#11 := by
    intro full
    have field : (@unpackExponent Format.binary64 b).toNat = 2047 := congrArg BitVec.toNat full
    omega
  have bias : (Format.binary64.exponentBias : Int) = 1023 := by decide
  unfold UnpackedFloat.unpack
  dsimp only
  rw [if_neg notFull, sign, bias]
  by_cases empty : @unpackExponent Format.binary64 b = 0#_
  · have field : (@unpackExponent Format.binary64 b).toNat = 0 := congrArg BitVec.toNat empty
    have some : @unpackMantissa Format.binary64 b ≠ 0#_ := by
      intro none
      have low : (@unpackMantissa Format.binary64 b).toNat = 0 := congrArg BitVec.toNat none
      omega
    have begun : 0 < (@unpackMantissa Format.binary64 b).toNat := by omega
    rw [if_pos empty, dif_neg some]
    refine ⟨_, _, begun, rfl, ?_⟩
    rw [field]
    omega
  · have field : (@unpackExponent Format.binary64 b).toNat ≠ 0 := fun zero =>
      empty (BitVec.eq_of_toNat_eq zero)
    have lead : (1#1 ++ @unpackMantissa Format.binary64 b).toNat =
        2 ^ 52 + (@unpackMantissa Format.binary64 b).toNat := by
      rw [toNat_join]
      rfl
    have begun : 0 < (1#1 ++ @unpackMantissa Format.binary64 b).toNat := by omega
    rw [if_neg empty]
    refine ⟨_, _, begun, rfl, ?_⟩
    rw [lead]
    omega

/-- The mantissa and the exponent of a rank have its size. -/
theorem sizeOf_eq_units {m : Nat} {e : Int} (fine : -1074 ≤ e) (fits : m < 2 ^ 53)
    (normal : m < 2 ^ 52 → e = -1074) (same : rank = (e + 1074).toNat * 2 ^ 52 + m) :
    sizeOf m e = units rank := by
  by_cases small : m < 2 ^ 52
  · obtain rfl := normal small
    have rankIs : rank = m := by omega
    rw [rankIs, units_of_lt fits]
    exact Nat.mul_one m
  · have mantissa : 2 ^ 52 + rank % 2 ^ 52 = m := by omega
    have exponent : rank / 2 ^ 52 - 1 = (e + 1074).toNat := by omega
    rw [units_of_le (by omega), mantissa, exponent]
    rfl

end View

/-- Magnitudes are ordered as their ranks; no finite one is above the infinite one. -/
theorem make_lt_make {a b : Nat} (bound : a ≤ infinity) (finite : b < infinity) :
    make false a < make false b ↔ a < b := by
  rw [lt_iff_view]
  rcases Nat.eq_zero_or_pos b with rfl | second
  · rw [view_zero]
    rcases Nat.eq_zero_or_pos a with rfl | first
    · simp [view_zero, UnpackedFloat.compare]
    · rcases Nat.lt_or_eq_of_le bound with below | rfl
      · obtain ⟨m, e, h, view, -⟩ := view_make first below
        simp [view, UnpackedFloat.compare]
      · simp [view_infinity, UnpackedFloat.compare]
  · obtain ⟨n, f, k, right, ff, fn, _, rankB⟩ := view_make second finite
    rw [right]
    rcases Nat.eq_zero_or_pos a with rfl | first
    · simp [view_zero, UnpackedFloat.compare, second]
    · rcases Nat.lt_or_eq_of_le bound with below | rfl
      · obtain ⟨m, e, h, left, fe, fm, _, rankA⟩ := view_make first below
        rw [left]
        have order : (UnpackedFloat.compare (.finite .positive m e h) (.finite .positive n f k)
            == some .lt) = true ↔ e < f ∨ e = f ∧ m < n := by
          simp [UnpackedFloat.compare, Ordering.then_eq_lt, Int.compare_eq_lt, Nat.compare_eq_lt]
        rw [order]
        omega
      · simp only [view_infinity, UnpackedFloat.compare]
        simp [finite.le]

/-- Core adds two mantissas at the smaller of their exponents. -/
theorem ofView_add_finite {m n : Nat} {e f : Int} (left : 0 < m) (right : 0 < n)
    (fine : -1074 ≤ e) (fine' : -1074 ≤ f) :
    ofView (UnpackedFloat.add .binary64 (.finite .positive m e left) (.finite .positive n f right)) =
      make false (min infinity (rankOf (sizeOf m e + sizeOf n f))) := by
  have moved {k : Nat} {g : Int} (finer : min e f ≤ g) :
      sizeOf (k <<< (g - min e f).toNat) (min e f) = sizeOf k g := by
    have exponent : (g + 1074).toNat = (g - min e f).toNat + (min e f + 1074).toNat := by omega
    rw [sizeOf, sizeOf, exponent, Nat.shiftLeft_eq, pow_add, Nat.mul_assoc]
  have sum : sizeOf (m <<< (e - min e f).toNat + n <<< (f - min e f).toNat) (min e f) =
      sizeOf m e + sizeOf n f := by
    rw [← moved (min_le_left e f), ← moved (min_le_right e f), sizeOf, Nat.add_mul]
    rfl
  have positive : 0 < m <<< (e - min e f).toNat + n <<< (f - min e f).toNat := by
    rw [Nat.shiftLeft_eq]
    exact Nat.add_pos_left (Nat.mul_pos left (Nat.two_pow_pos _)) _
  rw [← sum]
  refine Eq.trans ?_ (ofView_round .positive positive (by omega))
  unfold UnpackedFloat.add UnpackedFloat.normalize
  dsimp only [decreaseExponent, Sign.apply]
  have above : compare
      (((m <<< (e - min e f).toNat : Nat) : Int) + ((n <<< (f - min e f).toNat : Nat) : Int)) 0 =
        .gt := by
    rw [Int.compare_eq_gt]
    omega
  rw [above]
  rfl

def sumRank (a b : Nat) : Nat := min infinity (rankOf (units a + units b))

theorem units_mono {a b : Nat} (h : a ≤ b) : units a ≤ units b := by
  by_contra less
  rcases Nat.eq_zero_or_pos b with rfl | positive
  · obtain rfl := Nat.le_zero.mp h
    exact less le_rfl
  · have ranks := rankOf_mono (units_pos positive) (Nat.not_le.mp less).le
    rw [rankOf_units, rankOf_units] at ranks
    obtain rfl := Nat.le_antisymm h ranks
    exact less le_rfl

theorem units_zero : units 0 = 0 := units_of_lt (by decide)

theorem sumRank_mono {a a' : Nat} (b : Nat) (h : a ≤ a') : sumRank a b ≤ sumRank a' b := by
  rcases Nat.eq_zero_or_pos (units a + units b) with none | positive
  · have zero : rankOf 0 = 0 := by decide
    rw [sumRank, none, zero, Nat.min_zero]
    exact Nat.zero_le _
  · apply min_le_min_left
    exact rankOf_mono positive (Nat.add_le_add_right (units_mono h) _)

theorem le_sumRank {a : Nat} (b : Nat) (bound : a ≤ infinity) : a ≤ sumRank a b := by
  rcases Nat.eq_zero_or_pos a with rfl | positive
  · exact Nat.zero_le _
  · apply le_min bound
    have ranks := rankOf_mono (units_pos positive) (Nat.le_add_right (units a) (units b))
    rwa [rankOf_units] at ranks

theorem sumRank_le (a b : Nat) : sumRank a b ≤ infinity := Nat.min_le_left _ _

theorem sumRank_zero_left {b : Nat} (bound : b ≤ infinity) : sumRank 0 b = b := by
  rw [sumRank, units_zero, Nat.zero_add, rankOf_units, Nat.min_eq_right bound]

theorem sumRank_zero_right {a : Nat} (bound : a ≤ infinity) : sumRank a 0 = a := by
  rw [sumRank, units_zero, Nat.add_zero, rankOf_units, Nat.min_eq_right bound]

theorem sumRank_infinity (b : Nat) : sumRank infinity b = infinity :=
  Nat.le_antisymm (sumRank_le _ _) (le_sumRank b le_rfl)

/-- The kinds of a magnitude. -/
theorem view_magnitude {a : Nat} (bound : a ≤ infinity) :
    view (make false a) = .zero .positive ∨ view (make false a) = .infinity .positive ∨
      ∃ m e h, view (make false a) = .finite .positive m e h := by
  rcases Nat.eq_zero_or_pos a with rfl | positive
  · exact .inl view_zero
  · rcases Nat.lt_or_eq_of_le bound with finite | rfl
    · obtain ⟨m, e, h, view, -⟩ := view_make positive finite
      exact .inr (.inr ⟨m, e, h, view⟩)
    · exact .inr (.inl view_infinity)

/-- A zero of either sign does not change a magnitude. -/
theorem make_add_zero {a : Nat} (bound : a ≤ infinity) (s : Sign) :
    UnpackedFloat.add .binary64 (view (make false a)) (.zero s) = view (make false a) := by
  rcases view_magnitude bound with none | full | ⟨m, e, h, finite⟩
  · rw [none]
    cases s <;> rfl
  · rw [full]
    rfl
  · rw [finite]
    rfl

theorem make_add_infinity {a : Nat} (bound : a ≤ infinity) :
    make false a + make false infinity = make false infinity := by
  change ofView (UnpackedFloat.add .binary64 (view (make false a)) (.infinity .positive)) = _
  rcases view_magnitude bound with same | same | ⟨m, e, h, same⟩ <;> rw [same] <;> rfl

/-- Adding doubles without a sign adds their sizes and rounds to the nearest rank. -/
theorem make_add_make {a b : Nat} (left : a ≤ infinity) (right : b < infinity) :
    make false a + make false b = make false (sumRank a b) := by
  change ofView (UnpackedFloat.add .binary64 (view (make false a)) (view (make false b))) = _
  rcases Nat.eq_zero_or_pos b with rfl | second
  · rw [view_zero, make_add_zero left, ofView_view, sumRank_zero_right left]
  · obtain ⟨n, f, k, viewB, fine', fits', normal', rankB⟩ := view_make second right
    rcases Nat.eq_zero_or_pos a with rfl | first
    · have same : UnpackedFloat.add .binary64 (view (make false 0)) (view (make false b)) =
          view (make false b) := by
        rw [view_zero, viewB]
        rfl
      rw [same, ofView_view, sumRank_zero_left right.le]
    · rcases Nat.lt_or_eq_of_le left with finite | rfl
      · obtain ⟨m, e, h, viewA, fine, fits, normal, rankA⟩ := view_make first finite
        rw [viewA, viewB, sumRank, ← sizeOf_eq_units fine fits normal rankA,
          ← sizeOf_eq_units fine' fits' normal' rankB]
        exact ofView_add_finite h k fine fine'
      · have same : UnpackedFloat.add .binary64 (view (make false infinity))
            (view (make false b)) = view (make false infinity) := by
          rw [view_infinity, viewB]
          rfl
        rw [same, ofView_view, sumRank_infinity]

end RootFinder.Binary64
