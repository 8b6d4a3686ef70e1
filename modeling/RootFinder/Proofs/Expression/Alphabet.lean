import Mathlib
import RootFinder.Proofs.Expression.Scanning
import RootFinder.Proofs.Text.Ascii

/-! The characters of sentences. None of them is blank or changes in lower case, so a text is
normalized to a sentence exactly when it is one apart from its blanks. -/
namespace RootFinder.Expression

open Text (IsAscii isBlank removeBlanks)

def Grammatical (c : Char) : Prop := c.isDigit = true ∨ c ∈ ['.', 'x', '^', '+', '-']

instance (c : Char) : Decidable (Grammatical c) := inferInstanceAs (Decidable (_ ∨ _))

namespace Grammatical

variable {c : Char}

theorem isAscii (h : Grammatical c) : IsAscii c := by
  rcases h with digit | mark
  · have high := (Char.isDigit_iff_toNat.mp digit).2
    change c.toNat ≤ 57 at high
    exact Nat.lt_of_le_of_lt high (by decide)
  · simp only [List.mem_cons, List.not_mem_nil, or_false] at mark
    rcases mark with rfl | rfl | rfl | rfl | rfl <;> decide

private theorem fixed (h : Grammatical c) : isBlank c = false ∧ c.toLower = c :=
  h.isAscii.of_table
    (P := fun c => Grammatical c → isBlank c = false ∧ c.toLower = c) (by decide +kernel) h

theorem isBlank_eq (h : Grammatical c) : isBlank c = false := h.fixed.1

theorem toLower_eq (h : Grammatical c) : c.toLower = c := h.fixed.2

end Grammatical

theorem Digits.grammatical (d : Digits) : ∀ c ∈ d.chars, Grammatical c :=
  fun c member => .inl (d.plain c member)

theorem Number.grammatical (n : Number) : ∀ c ∈ n.text, Grammatical c := by
  intro c member
  rcases List.mem_append.mp member with whole | rest
  · exact n.whole.grammatical c whole
  · cases fraction : n.fraction with
    | none =>
      rw [fraction] at rest
      cases rest
    | some digits =>
      rw [fraction] at rest
      rcases List.mem_cons.mp rest with rfl | places
      · decide
      · exact digits.grammatical c places

theorem Body.grammatical_caretText (exponent : Option Digits) :
    ∀ c ∈ caretText exponent, Grammatical c := by
  intro c member
  cases exponent with
  | none => cases member
  | some digits =>
    rcases List.mem_cons.mp member with rfl | inDigits
    · decide
    · exact digits.grammatical c inDigits

theorem Body.grammatical (body : Body) : ∀ c ∈ body.text, Grammatical c := by
  intro c member
  cases body with
  | number n => exact n.grammatical c member
  | power n exponent =>
    rcases List.mem_append.mp member with inNumber | rest
    · cases n with
      | none => cases inNumber
      | some n => exact n.grammatical c inNumber
    · rcases List.mem_cons.mp rest with rfl | inCaret
      · decide
      · exact grammatical_caretText exponent c inCaret

theorem grammatical_sign (negative : Bool) : Grammatical (if negative then '-' else '+') := by
  cases negative <;> decide

theorem Summand.grammatical (t : Summand) : ∀ c ∈ t.text, Grammatical c := by
  intro c member
  rcases List.mem_cons.mp member with rfl | inBody
  · exact grammatical_sign t.negative
  · exact t.body.grammatical c inBody

theorem Sentence.grammatical (s : Sentence) : ∀ c ∈ s.text, Grammatical c := by
  intro c member
  rcases List.mem_append.mp member with front | inMore
  · rcases List.mem_append.mp front with inSign | inBody
    · cases sign : s.sign with
      | none =>
        rw [sign] at inSign
        cases inSign
      | some negative =>
        rw [sign] at inSign
        obtain rfl := List.mem_singleton.mp inSign
        exact grammatical_sign negative
    · exact s.body.grammatical c inBody
  · obtain ⟨t, -, inText⟩ := List.mem_flatMap.mp inMore
    exact t.grammatical c inText

theorem removeBlanks_grammatical {cs : List Char} (h : ∀ c ∈ cs, Grammatical c) :
    removeBlanks cs = cs := by
  apply List.filter_eq_self.mpr
  intro c member
  rw [(h c member).isBlank_eq]
  rfl

theorem normalize_ascii {cs : List Char} (h : ∀ c ∈ cs, IsAscii c) :
    normalize cs = (removeBlanks cs).map Char.toLower :=
  Text.lowercase_ascii fun c member => h c (Text.mem_removeBlanks.mp member).1

/-- The digits of a normalized text of the first 128 characters are those of the grammar. -/
theorem plainDigits_normalize {cs : List Char} (h : ∀ c ∈ cs, IsAscii c) :
    PlainDigits (normalize cs) := by
  rw [normalize_ascii h]
  intro c member digit
  obtain ⟨upper, kept, rfl⟩ := List.mem_map.mp member
  rwa [(h upper (Text.mem_removeBlanks.mp kept).1).toLower.isDigit_eq] at digit

/-- A text that is a sentence apart from its blanks is normalized to that sentence. -/
theorem normalize_sentence {cs : List Char} {s : Sentence} (same : removeBlanks cs = s.text) :
    normalize cs = s.text := by
  have ascii : ∀ c ∈ s.text, IsAscii c := fun c member => (s.grammatical c member).isAscii
  rw [normalize, same, Text.lowercase_ascii ascii]
  calc s.text.map Char.toLower = s.text.map id :=
      List.map_congr_left fun c member => (s.grammatical c member).toLower_eq
    _ = s.text := List.map_id _

end RootFinder.Expression
