import Mathlib
import RootFinder.Text.Digit
import RootFinder.Text.Lowercase

/-! Texts of the first 128 characters. The tables of all scripts say there what the character
functions of the language say. -/
namespace RootFinder.Text

def IsAscii (c : Char) : Prop := c.toNat < 128

instance (c : Char) : Decidable (IsAscii c) := inferInstanceAs (Decidable (c.toNat < 128))

theorem isAscii_of_all {cs : List Char} (h : cs.all (IsAscii ·) = true) : ∀ c ∈ cs, IsAscii c := by
  intro c member
  exact of_decide_eq_true (List.all_eq_true.mp h c member)

namespace IsAscii

variable {c : Char}

/-- What holds of the first 128 characters one by one. -/
theorem of_table {P : Char → Prop} (table : ∀ n < 128, P (Char.ofNat n)) (h : IsAscii c) : P c := by
  have entry := table c.toNat h
  rwa [Char.ofNat_toNat] at entry

theorem isDigit_eq (h : IsAscii c) : isDigit c = c.isDigit :=
  of_table (P := fun c => isDigit c = c.isDigit) (by decide +kernel) h

theorem partner_eq (h : IsAscii c) : Lowercase.partner c = c.toLower :=
  of_table (P := fun c => Lowercase.partner c = c.toLower) (by decide +kernel) h

theorem toLower (h : IsAscii c) : IsAscii c.toLower :=
  of_table (P := fun c => IsAscii c.toLower) (by decide +kernel) h

theorem inContext_eq (before after : List Char) (h : IsAscii c) :
    Lowercase.inContext before c after = [c.toLower] := by
  have notDotted : c ≠ 'İ' := by
    rintro rfl
    exact absurd h (by decide)
  have notSigma : c ≠ 'Σ' := by
    rintro rfl
    exact absurd h (by decide)
  rw [Lowercase.inContext, if_neg notDotted, if_neg notSigma, h.partner_eq]

end IsAscii

theorem lowercase_ascii {cs : List Char} (h : ∀ c ∈ cs, IsAscii c) :
    lowercase cs = cs.map Char.toLower := by
  suffices onward : ∀ before, Lowercase.onward before cs = cs.map Char.toLower from onward []
  induction cs with
  | nil => exact fun _ => rfl
  | cons c cs ih =>
    intro before
    have first := h c List.mem_cons_self
    have others := ih fun other member => h other (List.mem_cons_of_mem _ member)
    rw [Lowercase.onward, first.inContext_eq, others]
    rfl

end RootFinder.Text
