import Mathlib
import RootFinder.Proofs.Expression.Scanning

/-! What the reader makes of the numbers and exponents of the grammar. A number is converted once;
of an exponent only as many digits are converted as the highest one has. -/
namespace RootFinder.Expression

open Text (decimalValue?)

theorem decimalValue?_plain {c : Char} (h : c.isDigit = true) :
    decimalValue? c = some (c.toNat - '0'.toNat) := by
  obtain ⟨low, high⟩ := Char.isDigit_iff_toNat.mp h
  let covers (first : Nat) : Bool := first ≤ c.toNat && c.toNat < first + 10
  have within : covers 0x30 = true := by
    simp only [covers, Bool.and_eq_true, decide_eq_true_eq]
    exact ⟨low, Nat.lt_succ_of_le high⟩
  have found : Text.decimalZeros.find? covers = some 0x30 := List.find?_cons_of_pos within
  exact congrArg (Option.map (c.toNat - ·)) found

/-- The place values of a run of plain digits make up its number. -/
theorem mapM_decimalValue? {cs : List Char} (plain : ∀ c ∈ cs, c.isDigit = true) :
    ∃ values, cs.mapM decimalValue? = some values ∧
      Numeral.ofDigits values = Nat.ofDigitChars 10 cs 0 := by
  refine ⟨cs.map fun c => c.toNat - '0'.toNat, ?_, ?_⟩
  · induction cs with
    | nil => rfl
    | cons c cs ih =>
      have others := ih fun other member => plain other (List.mem_cons_of_mem _ member)
      rw [List.mapM_cons, decimalValue?_plain (plain c List.mem_cons_self), others]
      rfl
  · rw [Numeral.ofDigits, List.foldl_map, Nat.ofDigitChars_eq_foldl]

theorem value?_numeral (n : Number) : n.numeral.value? = some n.decimal := by
  have plain : ∀ c ∈ n.whole.chars ++ n.places, c.isDigit = true := by
    intro c member
    rcases List.mem_append.mp member with inWhole | inPlaces
    · exact n.whole.plain c inWhole
    · rw [Number.places] at inPlaces
      cases fraction : n.fraction with
      | none => rw [fraction] at inPlaces; cases inPlaces
      | some digits => rw [fraction] at inPlaces; exact digits.plain c inPlaces
  obtain ⟨values, read, value⟩ := mapM_decimalValue? plain
  rw [Number.places] at read value
  simp only [Numeral.value?, Number.numeral, read, Option.map_some, value]
  rfl

/-- A number is accepted exactly when it is read as a finite double. -/
theorem coefficient_number (sign : Option Bool) (n : Number) (position : Nat) :
    coefficient sign n.numeral position =
      if Binary64.isFinite (Binary64.read (sign.getD false) n.decimal) = true then
        .ok (Binary64.read (sign.getD false) n.decimal)
      else .error (.invalid .coefficientTooLarge position) := by
  simp only [coefficient, value?_numeral, Binary64.isFinite_read]
  rfl

theorem unit_eq_read (sign : Option Bool) : unit sign = Binary64.read (sign.getD false) ⟨1, 0⟩ := by
  rcases sign with _ | _ | _ <;> decide +kernel

private theorem ofDigitChars_dropZeros (cs : List Char) :
    Nat.ofDigitChars 10 (cs.dropWhile (· = '0')) 0 = Nat.ofDigitChars 10 cs 0 := by
  induction cs with
  | nil => rfl
  | cons c cs ih =>
    by_cases zero : c = '0'
    · subst c
      rw [List.dropWhile_cons_of_pos (by decide), ih, Nat.ofDigitChars_cons]
      rfl
    · rw [List.dropWhile_cons_of_neg (by simpa using zero)]

/-- A digit string that does not begin with a zero has at least the value of its leading place. -/
private theorem le_ofDigitChars {c : Char} (cs : List Char) (digit : c.isDigit = true)
    (nonzero : c ≠ '0') : 10 ^ cs.length ≤ Nat.ofDigitChars 10 (c :: cs) 0 := by
  have value : 1 ≤ c.toNat - '0'.toNat := by
    have low := (Char.isDigit_iff_toNat.mp digit).1
    have other : c.toNat ≠ '0'.toNat := fun same => nonzero (Char.toNat_inj.mp same)
    omega
  rw [Nat.ofDigitChars_cons, Nat.ofDigitChars_eq_ofDigitChars_zero, Nat.mul_zero, Nat.zero_add]
  calc 10 ^ cs.length ≤ 10 ^ cs.length * (c.toNat - '0'.toNat) := Nat.le_mul_of_pos_right _ value
    _ ≤ _ := Nat.le_add_right _ _

private theorem maxDegree_lt {c : Char} {cs : List Char} (digit : c.isDigit = true)
    (nonzero : c ≠ '0') (long : 3 ≤ cs.length) : maxDegree < Nat.ofDigitChars 10 (c :: cs) 0 :=
  calc maxDegree < 10 ^ 3 := by decide
    _ ≤ 10 ^ cs.length := Nat.pow_le_pow_right (by decide) long
    _ ≤ Nat.ofDigitChars 10 (c :: cs) 0 := le_ofDigitChars cs digit nonzero

/-- The digits of an exponent apart from its leading zeros. -/
private theorem significant_cons (d : Digits) {c : Char} {cs : List Char}
    (significant : d.chars.dropWhile (· = '0') = c :: cs) :
    (∀ other ∈ c :: cs, other.isDigit = true) ∧ c ≠ '0' := by
  constructor
  · intro other member
    rw [← significant] at member
    exact d.plain other (List.dropWhile_subset _ member)
  · have begins := List.head?_dropWhile_not (fun c => decide (c = '0')) d.chars
    rw [significant] at begins
    exact of_decide_eq_false begins

/-- An exponent is accepted exactly when its value is not above the highest one. -/
theorem exponentValue_digits (d : Digits) (position : Nat) :
    exponentValue d.chars position =
      if d.value ≤ maxDegree then .ok d.value
      else .error (.invalid .exponentTooLarge position) := by
  have value := ofDigitChars_dropZeros d.chars
  change _ = d.value at value
  have limit : (Decimal.decimalDigits maxDegree).length = 3 := by decide
  unfold exponentValue
  dsimp only
  rw [limit]
  cases significant : d.chars.dropWhile (· = '0') with
  | nil =>
    have none : d.value = 0 := by
      rw [← value, significant]
      rfl
    rw [none]
    rfl
  | cons c cs =>
    obtain ⟨plain, nonzero⟩ := significant_cons d significant
    obtain ⟨values, read, same⟩ := mapM_decimalValue? plain
    rw [← significant, value] at same
    simp only [List.isEmpty_cons, Bool.false_eq_true, if_false, List.length_cons]
    split
    · rename_i long
      have large := maxDegree_lt (plain c List.mem_cons_self) nonzero (Nat.le_of_lt_succ long)
      rw [← significant, value] at large
      rw [if_neg (Nat.not_le.mpr large)]
    · simp only [read, same]
      by_cases small : d.value ≤ maxDegree
      · rw [if_pos small, if_neg (Nat.not_lt.mpr small)]
      · rw [if_neg small, if_pos (Nat.not_le.mp small)]

end RootFinder.Expression
