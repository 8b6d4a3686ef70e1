import Mathlib
import RootFinder.Proofs.Binary64.Reading
import RootFinder.Proofs.Expression.Faults

/-! Exponents in digits of any script. An exponent is taken for its value, unless a zero of another
script stands before three digits more: such an exponent is refused for its length, however small it
is. Zeros of the plain script may stand in front in any number. -/
namespace RootFinder.Expression

open Text (decimalValue?)

/-- The digits that count for the length begin with a zero, which is one of another script, and are
more than the highest exponent has. -/
def Overpadded (digits : List Char) : Prop :=
  (digits.dropWhile (· = '0')).head?.bind decimalValue? = some 0 ∧
    (Decimal.decimalDigits maxDegree).length < (digits.dropWhile (· = '0')).length

instance (digits : List Char) : Decidable (Overpadded digits) := inferInstanceAs (Decidable (_ ∧ _))

variable {digits : List Char} {values : List Nat}

/-- The first digit counts as often as the power of ten that the digits after it make. -/
theorem ofDigits_cons (v : Nat) (vs : List Nat) :
    Numeral.ofDigits (v :: vs) = v * 10 ^ vs.length + Numeral.ofDigits vs := by
  suffices shifted : ∀ start, vs.foldl (fun n d => 10 * n + d) start =
      start * 10 ^ vs.length + vs.foldl (fun n d => 10 * n + d) 0 by
    rw [Numeral.ofDigits, List.foldl_cons, shifted, Nat.mul_zero, Nat.zero_add]
    rfl
  induction vs with
  | nil => exact fun start => (Nat.mul_one start).symm
  | cons d ds ih =>
    intro start
    rw [List.foldl_cons, List.foldl_cons, ih (10 * start + d), ih (10 * 0 + d), List.length_cons]
    ring

theorem length_of_mapM (read : digits.mapM decimalValue? = some values) :
    values.length = digits.length := by
  induction digits generalizing values with
  | nil =>
    cases read
    rfl
  | cons c cs ih =>
    obtain ⟨v, vs, rfl, -, more⟩ := mapM_decimalValue?_cons read
    rw [List.length_cons, List.length_cons, ih more]

/-- More digits than the highest exponent has are too high a value if the first is not zero. -/
theorem maxDegree_lt_ofDigits {v : Nat} {vs : List Nat} (positive : 0 < v)
    (long : (Decimal.decimalDigits maxDegree).length ≤ vs.length) :
    maxDegree < Numeral.ofDigits (v :: vs) :=
  calc maxDegree < 10 ^ (Decimal.decimalDigits maxDegree).length := Decimal.lt_decimalDigits _
    _ ≤ 10 ^ vs.length := Nat.pow_le_pow_right (by decide) long
    _ ≤ v * 10 ^ vs.length := Nat.le_mul_of_pos_left _ positive
    _ ≤ v * 10 ^ vs.length + Numeral.ofDigits vs := Nat.le_add_right _ _
    _ = Numeral.ofDigits (v :: vs) := (ofDigits_cons v vs).symm

/-- Too long an exponent has too high a value, unless it begins with a zero. -/
theorem tooHigh_iff_value (read : digits.mapM decimalValue? = some values) :
    TooHigh digits ↔ maxDegree < Numeral.ofDigits values ∨ Overpadded digits := by
  constructor
  · rintro (long | ⟨others, again, high⟩)
    · obtain ⟨vs, left, value⟩ := mapM_significant read
      cases significant : digits.dropWhile (· = '0') with
      | nil =>
        rw [significant] at long
        cases long
      | cons c cs =>
        rw [significant] at left long
        obtain ⟨v, rest, rfl, first, more⟩ := mapM_decimalValue?_cons left
        rcases Nat.eq_zero_or_pos v with rfl | positive
        · right
          rw [Overpadded, significant]
          exact ⟨first, long⟩
        · left
          rw [← value]
          refine maxDegree_lt_ofDigits positive ?_
          rw [length_of_mapM more]
          exact Nat.le_of_lt_succ long
    · rw [read] at again
      cases again
      exact .inl high
  · rintro (high | ⟨-, long⟩)
    · exact .inr ⟨values, read, high⟩
    · exact .inl long

theorem exponentValue_readable (read : digits.mapM decimalValue? = some values) (position : Nat) :
    exponentValue digits position =
      if Numeral.ofDigits values ≤ maxDegree ∧ ¬ Overpadded digits then
        .ok (Numeral.ofDigits values)
      else .error (.invalid .exponentTooLarge position) := by
  have high := tooHigh_iff_value read
  rcases exponentValue_outcome digits position with
    ⟨others, found, again, small⟩ | ⟨refused, large⟩ | ⟨quoted, -, unread⟩
  · rw [read] at again
    cases again
    rw [high, not_or, Nat.not_lt] at small
    rw [found, if_pos small]
  · rw [refused, if_neg]
    rintro ⟨small, plain⟩
    rcases high.mp large with above | padded
    · exact Nat.not_lt.mpr small above
    · exact plain padded
  · rw [read] at unread
    cases unread

/-- What follows a caret: a numeral that is a run of digits. -/
def raised (digits : List Char) (caret position : Nat) (rest : List Token) : List Token :=
  ⟨.caret, caret⟩ :: ⟨.numeral ⟨digits, none⟩, position⟩ :: rest

theorem readExponent_raised (read : digits.mapM decimalValue? = some values)
    (finish caret position : Nat) (rest : List Token) :
    readExponent finish (raised digits caret position rest) =
      if Numeral.ofDigits values ≤ maxDegree ∧ ¬ Overpadded digits then
        .ok (Numeral.ofDigits values, rest)
      else .error (.invalid .exponentTooLarge position) := by
  rw [raised, readExponent, exponentValue_readable read, apply_ite (Except.map _)]
  rfl

/-- An exponent in decimal digits is read as its value, and refused at its place when that is above
the highest one, but also when it is padded too much. So exponents of one value are treated alike
unless just one of them is padded so. -/
theorem readExponent_value (read : digits.mapM decimalValue? = some values)
    (finish caret position : Nat) (rest : List Token) :
    readExponent finish (raised digits caret position rest) =
        (if Numeral.ofDigits values ≤ maxDegree ∧ ¬ Overpadded digits then
          .ok (Numeral.ofDigits values, rest)
        else .error (.invalid .exponentTooLarge position)) ∧
      ∀ other values', other.mapM decimalValue? = some values' →
        Numeral.ofDigits values' = Numeral.ofDigits values →
        (Overpadded other ↔ Overpadded digits) →
        readExponent finish (raised other caret position rest) =
          readExponent finish (raised digits caret position rest) := by
  refine ⟨readExponent_raised read finish caret position rest, ?_⟩
  intro other values' found same padded
  rw [readExponent_raised read, readExponent_raised found]
  simp only [same, padded]

/-- A two after a zero, both Arabic, and a plain two after five plain zeros. -/
theorem readExponent_value_two :
    readExponent 4 (raised "٠٢".toList 1 2 []) = .ok (2, []) ∧
      readExponent 4 (raised "000002".toList 1 2 []) =
        readExponent 4 (raised "٠٢".toList 1 2 []) := by
  have arabic : "٠٢".toList.mapM decimalValue? = some [0, 2] := by decide +kernel
  have plain : "000002".toList.mapM decimalValue? = some [0, 0, 0, 0, 0, 2] := by decide +kernel
  have loose : ¬ Overpadded "٠٢".toList := by decide +kernel
  have loose' : ¬ Overpadded "000002".toList := by decide +kernel
  obtain ⟨value, alike⟩ := readExponent_value arabic 4 1 2 []
  exact ⟨value.trans (if_pos ⟨by decide, loose⟩),
    alike _ _ plain (by decide) (iff_of_false loose' loose)⟩

/-- Not every exponent is taken for its value: a one after three Arabic zeros is refused. -/
theorem not_read_as_value : ¬ ∀ (digits : List Char) (values : List Nat)
    (finish caret position : Nat) (rest : List Token), digits.mapM decimalValue? = some values →
      Numeral.ofDigits values ≤ maxDegree →
      readExponent finish (raised digits caret position rest) =
        .ok (Numeral.ofDigits values, rest) := by
  intro always
  have one : "٠٠٠١".toList.mapM decimalValue? = some [0, 0, 0, 1] := by decide +kernel
  have refused : readExponent 6 (raised "٠٠٠١".toList 1 2 []) =
      .error (.invalid .exponentTooLarge 2) := by decide +kernel
  have accepted := always _ _ 6 1 2 [] one (by decide)
  rw [refused] at accepted
  cases accepted

end RootFinder.Expression
