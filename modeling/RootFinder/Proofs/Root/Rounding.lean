import Mathlib
import RootFinder.Proofs.Binary64.Places
import RootFinder.Proofs.Polynomial.Numerals
import RootFinder.Proofs.Solution.Outcome

/-! Rounded roots. A root that was rounded is not changed by rounding it again, and is shown as it
would have been shown without rounding, but for the sign of a zero. -/
namespace RootFinder

open Binary64 (infinity isFinite make parts roundRank)
open Decimal (fixed rounded)

namespace Expression.Number

/-- A number without its point. -/
theorem filter_text (n : Number) : n.text.filter Char.isDigit = n.whole.chars ++ n.places := by
  have whole := List.filter_eq_self.mpr n.whole.plain
  unfold text places
  cases n.fraction with
  | none => rw [List.filter_append, whole]; rfl
  | some digits =>
    have fraction := List.filter_eq_self.mpr digits.plain
    rw [List.filter_append, whole, List.filter_cons_of_neg (by decide), fraction]
    rfl

theorem text_ne_minus (n : Number) (rest : List Char) : n.text ≠ '-' :: rest := by
  intro same
  obtain ⟨c, cs, chars⟩ := List.exists_cons_of_ne_nil n.whole.begun
  rw [text, chars, List.cons_append, List.cons.injEq] at same
  have digit := n.whole.plain c (chars ▸ List.mem_cons_self)
  rw [same.1] at digit
  cases digit

end Expression.Number

section Display

variable {n : Nat}

theorem plain_fixed (some : n ≠ 0) (coefficient : Nat) :
    ∃ number : Expression.Number, number.text = Decimal.plain ⟨coefficient, -(n : Int)⟩ ∧
      number.decimal.coefficient = coefficient := by
  obtain ⟨number, text, decimal⟩ :=
    Polynomial.withPoint_number (Expression.Digits.ofNat coefficient) some
  refine ⟨number, ?_, ?_⟩
  · have below : ¬ 0 ≤ -(n : Int) := by omega
    rw [text, Decimal.plain, if_neg below, Int.neg_neg, Int.toNat_natCast]
    rfl
  · rw [decimal]
    exact Expression.Digits.value_ofNat coefficient

/-- Numbers with as many places are told apart by their texts. -/
theorem plain_injective (some : n ≠ 0) {a b : Nat}
    (same : Decimal.plain ⟨a, -(n : Int)⟩ = Decimal.plain ⟨b, -(n : Int)⟩) : a = b := by
  obtain ⟨first, text, value⟩ := plain_fixed some a
  obtain ⟨second, text', value'⟩ := plain_fixed some b
  have digits := congrArg (List.filter Char.isDigit) (text.trans (same.trans text'.symm))
  rw [first.filter_text, second.filter_text] at digits
  calc a = Nat.ofDigitChars 10 (first.whole.chars ++ first.places) 0 := value.symm
    _ = Nat.ofDigitChars 10 (second.whole.chars ++ second.places) 0 := by rw [digits]
    _ = b := value'

theorem plain_ne_minus (some : n ≠ 0) (coefficient : Nat) (rest : List Char) :
    Decimal.plain ⟨coefficient, -(n : Int)⟩ ≠ '-' :: rest := by
  obtain ⟨number, text, -⟩ := plain_fixed some coefficient
  rw [← text]
  exact number.text_ne_minus rest

theorem fixed_make (negative : Bool) {rank : Nat} (finite : rank < infinity) :
    fixed n (make negative rank) =
      String.ofList (Decimal.signed negative (rounded n rank).plain) := by
  rw [fixed, Binary64.parts_make negative finite]

theorem rounded_zero : rounded n 0 = ⟨0, -(n : Int)⟩ := by
  rw [rounded, Binary64.units_zero, Nat.zero_mul, roundDiv_zero]

end Display

section Rounding

variable {v : Float} {negative : Bool} {rank : Nat}

theorem roundPart_eq_ok {digits : Int} {w : Float} (same : parts v = .finite negative rank) :
    Root.roundPart digits v = .ok w ↔ roundRank digits rank < infinity ∧
      make (negative && roundRank digits rank != 0) (roundRank digits rank) = w := by
  rw [Root.roundPart, Binary64.round_finite same]
  split_ifs with large
  · constructor
    · intro h
      cases h
    · rintro ⟨small, -⟩
      exact absurd large (Nat.not_le.mpr small)
  · have small := Nat.not_le.mp large
    rw [Except.map, Binary64.foldZero_make negative small, Except.ok.injEq, and_iff_right small]

/-- A part that was rounded is not changed by rounding it again. -/
theorem roundPart_again {digits : Int} {w : Float} (finite : isFinite v = true)
    (first : Root.roundPart digits v = .ok w) :
    Root.roundPart digits w = .ok w ∧ IsReported w := by
  obtain ⟨negative, rank, same⟩ := Binary64.isFinite_iff.mp finite
  obtain ⟨small, rfl⟩ := (roundPart_eq_ok same).mp first
  refine ⟨?_, isReported_roundPart (Binary64.isFinite_make small) first⟩
  rw [roundPart_eq_ok (Binary64.parts_make _ small), Binary64.roundRank_roundRank, Bool.and_assoc,
    Bool.and_self]
  exact ⟨small, rfl⟩

/-- Rounding to places that are kept has a result. -/
theorem roundPart_total (places : Nat) (finite : isFinite v = true) :
    ∃ w, Root.roundPart places v = .ok w := by
  obtain ⟨negative, rank, same⟩ := Binary64.isFinite_iff.mp finite
  have small := Binary64.roundRank_lt_infinity places (Binary64.parts_finite same).1
  exact ⟨_, (roundPart_eq_ok same).mpr ⟨small, rfl⟩⟩

/-- What is shown of a rounded part is what is shown of the part itself, a zero without its sign. -/
theorem fixed_roundPart {n : Nat} (some : n ≠ 0) (few : n ≤ 323) {w : Float}
    (finite : isFinite v = true) (first : Root.roundPart n v = .ok w) :
    fixed n w = if fixed n v = fixed n (make true 0) then fixed n (make false 0)
      else fixed n v := by
  obtain ⟨negative, rank, same⟩ := Binary64.isFinite_iff.mp finite
  obtain ⟨small, rfl⟩ := (roundPart_eq_ok same).mp first
  obtain ⟨bound, rfl⟩ := Binary64.parts_finite same
  have zero := @Binary64.roundRank_eq_zero n few rank
  obtain ⟨coefficient, form⟩ : ∃ coefficient, rounded n rank = ⟨coefficient, -(n : Int)⟩ :=
    ⟨_, rfl⟩
  rw [form] at zero
  rw [fixed_make _ small, fixed_make _ bound, fixed_make true (by decide),
    fixed_make false (by decide), Binary64.rounded_roundRank few, rounded_zero, form]
  -- both texts show the same multiple, so only the sign can differ, and it does for a zero only
  cases negative with
  | false =>
    rw [Bool.false_and, if_neg]
    intro shown
    exact plain_ne_minus some _ _ (String.ofList_injective shown)
  | true =>
    by_cases none : coefficient = 0
    · rw [zero.mpr none, none, if_pos rfl]
      rfl
    · rw [Bool.true_and, bne_iff_ne.mpr (mt zero.mp none), if_neg]
      intro shown
      have texts := List.tail_eq_of_cons_eq (String.ofList_injective shown)
      exact none (plain_injective some texts)

/-- Rounding is stable: to whatever places a finite number can be rounded, it stays as it is when it
is rounded to them again, and it is finite and not the negative zero. Rounding to the places that are
shown is always possible, and does not change what is shown but for the sign of a zero. -/
theorem round_stable (finite : isFinite v = true) :
    (∀ digits w, Root.roundPart digits v = .ok w →
      Root.roundPart digits w = .ok w ∧ isFinite w = true ∧ parts w ≠ .finite true 0) ∧
    ∃ root, Root.round places (.real v) = .ok root ∧
      root.display places = if (Root.real v).display places = "-0.000000" then "0.000000"
        else (Root.real v).display places := by
  constructor
  · exact fun digits w first => roundPart_again finite first
  · obtain ⟨w, first⟩ := roundPart_total places finite
    refine ⟨.real w, ?_, ?_⟩
    · rw [Root.round, first]
      rfl
    · have shown := fixed_roundPart (by decide) (by decide) finite first
      have minus : fixed places (make true 0) = "-0.000000" := by decide +kernel
      have plus : fixed places (make false 0) = "0.000000" := by decide +kernel
      rw [minus, plus] at shown
      exact shown

/-- Numbers next to a half of the last place; the second goes to zero from below. -/
theorem round_stable_half :
    isFinite (-2.6750005) = true ∧ Root.roundPart 6 (-2.6750005) = .ok (-2.675) ∧
      Root.roundPart 6 (-2.675) = .ok (-2.675) ∧
      (Root.real (-0.0000005)).display places = "-0.000000" ∧
      ∃ root, Root.round places (.real (-0.0000005)) = .ok root ∧
        root.display places = "0.000000" := by
  have half : isFinite (-2.6750005) = true := by decide +kernel
  have first : Root.roundPart 6 (-2.6750005) = .ok (-2.675) := by decide +kernel
  have shown : (Root.real (-0.0000005)).display places = "-0.000000" := by decide +kernel
  obtain ⟨root, rounds, display⟩ := (round_stable (v := -0.0000005) (by decide +kernel)).2
  rw [if_pos shown] at display
  exact ⟨half, first, ((round_stable half).1 6 _ first).1, shown, root, rounds, display⟩

end Rounding

end RootFinder
