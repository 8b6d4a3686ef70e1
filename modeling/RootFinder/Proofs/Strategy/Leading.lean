import Mathlib
import RootFinder.Proofs.Binary64.Zeros

/-! The leading coefficient. Every closed form divides by a multiple of it, so there are no roots
when it is zero; only the search can do with a leading zero. -/
namespace RootFinder

open Binary64 (isZero)
open RootFinder.Polynomial (Same)
open Scalar (whole)
open Approximate (quotient)

def Led (coefficients : List Float) : Prop := ∀ c ∈ coefficients.head?, isZero c = false

def Fails {α : Type} (x : Except Fault α) : Prop := ∃ fault, x = .error fault

namespace Fails

variable {α β : Type}

theorem not_ok {x : Except Fault α} (fails : Fails x) (a : α) : x ≠ .ok a := by
  obtain ⟨fault, rfl⟩ := fails
  intro ok
  cases ok

theorem bind {x : Except Fault α} (fails : Fails x) (f : α → Except Fault β) :
    Fails (x >>= f) := by
  obtain ⟨fault, rfl⟩ := fails
  exact ⟨fault, rfl⟩

/-- What comes first may fail or not. -/
theorem after (x : Except Fault α) {f : α → Except Fault β} (fails : ∀ a, Fails (f a)) :
    Fails (x >>= f) := by
  cases x with
  | error fault => exact ⟨fault, rfl⟩
  | ok a => exact fails a

end Fails

section ClosedForm

variable {a : Float}

theorem fails_quotient (x : Float) {y : Float} (zero : isZero y = true) :
    Fails (quotient x y) := by
  refine ⟨.divisionByZero, if_pos ?_⟩
  rw [Binary64.beq_zero]
  exact zero

theorem same_zero (zero : isZero a = true) : Same a 0 := .inr ⟨zero, by decide +kernel⟩

theorem linear_fails {b : Float} (zero : isZero a = true) : Fails (ClosedForm.linear [a, b]) :=
  (fails_quotient _ zero).bind _

theorem quadraticRoots_fails (zero : isZero a = true) (b c : Float) :
    Fails (ClosedForm.quadraticRoots a b c) := by
  have twice : isZero (whole 2 * a) = true := by
    have product : Same (whole 2 * a) (whole 2 * 0) :=
      Binary64.same_mul (.inl rfl) (same_zero zero)
    rw [product.isZero_eq]
    decide +kernel
  unfold ClosedForm.quadraticRoots
  dsimp only
  split
  · exact Fails.after _ fun s => (fails_quotient _ twice).bind _
  · split
    · exact (fails_quotient _ twice).bind _
    · exact (fails_quotient _ twice).bind _

theorem cubicRoots_fails (zero : isZero a = true) (b c d : Float) :
    Fails (ClosedForm.cubicRoots a b c d) := by
  have product : isZero (whole 3 * a * a) = true := by
    have same : Same (whole 3 * a * a) (whole 3 * 0 * 0) :=
      Binary64.same_mul (Binary64.same_mul (.inl rfl) (same_zero zero)) (same_zero zero)
    rw [same.isZero_eq]
    decide +kernel
  have notOne : Approximate.same a (whole 1) = false := by
    have compared : (a == whole 1) = ((0 : Float) == whole 1) :=
      Binary64.beq_same (same_zero zero) (.inl rfl)
    refine compared.trans ?_
    decide +kernel
  unfold ClosedForm.cubicRoots
  rw [notOne, Bool.false_and, Bool.false_and, Bool.false_and, if_neg Bool.false_ne_true]
  split
  · obtain ⟨fault, failed⟩ := quadraticRoots_fails zero b c
    rw [failed]
    exact ⟨fault, rfl⟩
  · unfold ClosedForm.cardano ClosedForm.depress
    exact ((fails_quotient _ product).bind _).bind _

end ClosedForm

/-- A closed form that finds roots has a leading coefficient other than zero. -/
theorem Strategy.run_led {strategy : Strategy} {coefficients : List Float}
    {found : List (Root Float)} (closed : strategy ≠ .newton)
    (run : strategy.run coefficients = .ok found) : Led coefficients := by
  cases coefficients with
  | nil => exact nofun
  | cons a rest =>
    rintro _ ⟨⟩
    apply Bool.eq_false_iff.mpr
    intro zero
    cases strategy with
    | linear =>
      match rest with
      | [b] => exact (linear_fails zero).not_ok found run
      | [] => cases run
      | _ :: _ :: _ => cases run
    | quadratic =>
      match rest with
      | [b, c] => exact (quadraticRoots_fails zero b c).not_ok found run
      | [] => cases run
      | [_] => cases run
      | _ :: _ :: _ :: _ => cases run
    | cubic =>
      match rest with
      | [b, c, d] => exact (cubicRoots_fails zero b c d).not_ok found run
      | [] => cases run
      | [_] => cases run
      | [_, _] => cases run
      | _ :: _ :: _ :: _ :: _ => cases run
    | newton => exact closed rfl

end RootFinder
