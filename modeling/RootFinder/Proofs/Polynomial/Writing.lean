import Mathlib
import RootFinder.Proofs.Expression.Alphabet
import RootFinder.Proofs.Expression.Reading
import RootFinder.Proofs.Polynomial.Numerals

/-! The text of a vector. A finite vector is written as the sentence that has a summand for each of
its coefficients other than zero; a coefficient that is not finite leaves a letter that no sentence
has. -/
namespace RootFinder.Polynomial

open Binary64 (isFinite isZero parts ofDecimal)
open Expression (Body Digits Sentence Summand Term)
open Text (IsAscii removeBlanks)

/-- The exponent written after the unknown; nothing for the power one. -/
def exponentOf (power : Nat) : Option Digits := if power = 1 then none else some (.ofNat power)

theorem unknown_text {power : Nat} (positive : power ≠ 0) :
    unknown power = 'x' :: Body.caretText (exponentOf power) := by
  unfold unknown exponentOf
  split
  · contradiction
  · rfl
  · rename_i other
    rw [if_neg other]
    rfl

theorem exponent_exponentOf (n : Option Expression.Number) (power : Nat) :
    (Body.power n (exponentOf power)).exponent = power := by
  by_cases one : power = 1
  · simp [Body.exponent, exponentOf, one]
  · simp [Body.exponent, exponentOf, one, Digits.value_ofNat]

/-- What is written for a coefficient is a body of its power and magnitude. -/
theorem body_written {c : Float} {negative : Bool} {rank : Nat}
    (same : parts c = .finite negative rank) (power : Nat) :
    ∃ b : Body, b.text = body c power ∧ b.exponent = power ∧ b.hasUnknown = (power != 0) ∧
      ofDecimal b.magnitude = rank := by
  obtain ⟨n, text, decimal⟩ := magnitude_number same
  by_cases constant : power = 0
  · subst power
    refine ⟨.number n, ?_, rfl, rfl, decimal⟩
    simp only [body, bne_self_eq_false, Bool.and_false, Bool.false_eq_true, if_false, unknown,
      List.append_nil, ← text]
    rfl
  · have has : (power != 0) = true := bne_iff_ne.mpr constant
    by_cases one : isUnit c = true
    · refine ⟨.power none (exponentOf power), ?_, exponent_exponentOf none power, has.symm, ?_⟩
      · rw [body, one, has, unknown_text constant]
        rfl
      · simp only [isUnit, same, beq_iff_eq] at one
        rw [one]
        change ofDecimal ⟨1, 0⟩ = Binary64.unitRank
        decide +kernel
    · refine
        ⟨.power (some n) (exponentOf power), ?_, exponent_exponentOf _ power, has.symm, decimal⟩
      rw [body, Bool.eq_false_iff.mpr one, unknown_text constant, ← text]
      rfl

def nonzero : List Float → List Term
  | [] => []
  | c :: rest =>
    if isZero c then nonzero rest else ⟨rest.length, c, rest.length != 0⟩ :: nonzero rest

/-- A coefficient other than zero is written as a summand under its sign. -/
theorem summand_written {c : Float} (finite : isFinite c = true) (other : isZero c = false)
    (power : Nat) : ∃ t : Summand, t.negative = Binary64.isBelowZero c ∧
      t.body.text = body c power ∧ t.term = ⟨power, c, power != 0⟩ := by
  obtain ⟨negative, rank, same⟩ := Binary64.isFinite_iff.mp finite
  obtain ⟨b, text, exponent, has, magnitude⟩ := body_written same power
  refine ⟨⟨negative, b⟩, ?_, text, ?_⟩
  · have positive : (rank != 0) = true := by
      simpa [isZero, same] using other
    simp only [Binary64.isBelowZero, same, positive, Bool.and_true]
  · simp only [Summand.term, Summand.value, Binary64.read, exponent, has, magnitude,
      (Binary64.parts_finite same).2]

theorem more_written {coefficients : List Float} (finite : ∀ c ∈ coefficients, isFinite c = true) :
    ∃ more : List Summand, removeBlanks (write false coefficients) = more.flatMap Summand.text ∧
      more.map Summand.term = nonzero coefficients := by
  induction coefficients with
  | nil => exact ⟨[], rfl, rfl⟩
  | cons c rest ih =>
    obtain ⟨first, others⟩ := List.forall_mem_cons.mp finite
    obtain ⟨more, text, terms⟩ := ih others
    by_cases zero : isZero c = true
    · rw [write, if_pos zero, nonzero, if_pos zero]
      exact ⟨more, text, terms⟩
    · obtain ⟨t, negative, body, term⟩ :=
        summand_written first (Bool.eq_false_iff.mpr zero) rest.length
      refine ⟨t :: more, ?_, ?_⟩
      · have signed : removeBlanks (sign false t.negative) = [if t.negative then '-' else '+'] := by
          cases t.negative <;> decide
        rw [write, if_neg zero, Text.removeBlanks_append, Text.removeBlanks_append, text,
          ← negative, signed, ← body, Expression.removeBlanks_grammatical t.body.grammatical]
        rfl
      · rw [nonzero, if_neg zero, List.map_cons, term, terms]

/-- The sign of the first term; none when it is positive. -/
def firstSign (negative : Bool) : Option Bool := if negative then some true else none

/-- A finite vector that is not all zero is written as a sentence with its terms. -/
theorem sentence_written {coefficients : List Float}
    (finite : ∀ c ∈ coefficients, isFinite c = true) (kept : coefficients.all isZero = false) :
    ∃ s : Sentence, removeBlanks (write true coefficients) = s.text ∧
      s.summands.map Summand.term = nonzero coefficients := by
  induction coefficients with
  | nil => cases kept
  | cons c rest ih =>
    obtain ⟨first, others⟩ := List.forall_mem_cons.mp finite
    by_cases zero : isZero c = true
    · rw [List.all_cons, zero, Bool.true_and] at kept
      rw [write, if_pos zero, nonzero, if_pos zero]
      exact ih others kept
    · obtain ⟨more, text, terms⟩ := more_written others
      obtain ⟨t, negative, body, term⟩ :=
        summand_written first (Bool.eq_false_iff.mpr zero) rest.length
      have signed : removeBlanks (sign true t.negative) =
          Expression.signText (firstSign t.negative) := by
        cases t.negative <;> decide
      refine ⟨⟨firstSign t.negative, t.body, more⟩, ?_, ?_⟩
      · rw [write, if_neg zero, Text.removeBlanks_append, Text.removeBlanks_append, text,
          ← negative, signed, ← body, Expression.removeBlanks_grammatical t.body.grammatical,
          Sentence.text, List.append_assoc]
      · have same : (firstSign t.negative).getD false = t.negative := by
          cases t.negative <;> rfl
        rw [nonzero, if_neg zero, Sentence.summands, Sentence.first, List.map_cons, terms, ← term]
        simp only [same]

theorem ascii_magnitude (x : Float) : ∀ c ∈ magnitude x, IsAscii c := by
  cases same : parts x with
  | finite negative rank =>
    obtain ⟨n, text, -⟩ := magnitude_number same
    rw [← text]
    exact fun c member => (n.grammatical c member).isAscii
  | infinite negative =>
    simp only [magnitude, same]
    exact Text.isAscii_of_all (by decide)
  | undefined =>
    simp only [magnitude, same]
    exact Text.isAscii_of_all (by decide)

theorem ascii_body (x : Float) (power : Nat) : ∀ c ∈ body x power, IsAscii c := by
  have ascii_unknown : ∀ c ∈ unknown power, IsAscii c := by
    intro c member
    by_cases zero : power = 0
    · subst power
      cases member
    · rw [unknown_text zero] at member
      exact ((Body.power none (exponentOf power)).grammatical c member).isAscii
  intro c member
  unfold body at member
  split at member
  · exact ascii_unknown c member
  · rcases List.mem_append.mp member with front | back
    · exact ascii_magnitude x c front
    · exact ascii_unknown c back

theorem ascii_write (first : Bool) (coefficients : List Float) :
    ∀ c ∈ write first coefficients, IsAscii c := by
  induction coefficients generalizing first with
  | nil => simp [write]
  | cons x rest ih =>
    unfold write
    split
    · exact ih first
    · intro c member
      rcases List.mem_append.mp member with front | back
      · rcases List.mem_append.mp front with inSign | inBody
        · have all : ∀ negative, (sign first negative).all (IsAscii ·) = true := by
            cases first <;> decide
          exact Text.isAscii_of_all (all _) c inSign
        · exact ascii_body x rest.length c inBody
      · exact ih false c back

/-- The names of doubles that are not finite have a letter that is none of the grammar's. -/
theorem letter_body {x : Float} (infinite : isFinite x = false) (power : Nat) :
    ∃ c ∈ body x power, Text.isBlank c = false ∧ c.toLower = 'n' := by
  cases same : parts x with
  | finite negative rank => simp [isFinite, same] at infinite
  | infinite negative =>
    refine ⟨'n', ?_, by decide, by decide⟩
    simp only [body, isUnit, magnitude, same, Bool.false_and, Bool.false_eq_true, if_false]
    exact List.mem_append_left _ (by decide)
  | undefined =>
    refine ⟨'N', ?_, by decide, by decide⟩
    simp only [body, isUnit, magnitude, same, Bool.false_and, Bool.false_eq_true, if_false]
    exact List.mem_append_left _ (by decide)

theorem letter_write {coefficients : List Float} {x : Float} (first : Bool)
    (member : x ∈ coefficients) (infinite : isFinite x = false) :
    ∃ c ∈ write first coefficients, Text.isBlank c = false ∧ c.toLower = 'n' := by
  induction coefficients generalizing first with
  | nil => cases member
  | cons y rest ih =>
    rcases List.mem_cons.mp member with rfl | later
    · have other : isZero x = false := by
        apply Bool.eq_false_iff.mpr
        intro zero
        rw [Binary64.isFinite_of_isZero zero] at infinite
        cases infinite
      obtain ⟨c, inBody, letter⟩ := letter_body infinite rest.length
      rw [write, other]
      exact ⟨c, by simp [inBody], letter⟩
    · unfold write
      split
      · exact ih first later
      · obtain ⟨c, inRest, letter⟩ := ih false later
        exact ⟨c, List.mem_append_right _ inRest, letter⟩

end RootFinder.Polynomial
