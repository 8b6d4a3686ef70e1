import Mathlib
import RootFinder.Expression
import RootFinder.Proofs.Binary64.Code

/-! The grammar of expressions, given apart from the reader. A sentence is an optional sign and a
body, then signs and bodies in turn; a body is a number, or the unknown with an optional number
before it and an optional exponent after it. -/
namespace RootFinder.Expression

/-- A string of the digits 0 to 9, at least one. -/
structure Digits where
  chars : List Char
  begun : chars ≠ []
  plain : ∀ c ∈ chars, c.isDigit = true

def Digits.value (d : Digits) : Nat := Nat.ofDigitChars 10 d.chars 0

def Digits.ofNat (n : Nat) : Digits where
  chars := Decimal.decimalDigits n
  begun := Nat.toDigits_ne_nil
  plain := fun _ member => Nat.isDigit_of_mem_toDigits (by decide) (by decide) member

theorem Digits.value_ofNat (n : Nat) : (ofNat n).value = n := Nat.ofDigitChars_ten_toDigits

/-- Digits, and digits after a point if there is one. -/
structure Number where
  whole : Digits
  fraction : Option Digits

namespace Number

def places (n : Number) : List Char := (n.fraction.map Digits.chars).getD []

def text (n : Number) : List Char :=
  n.whole.chars ++ match n.fraction with
    | none => []
    | some digits => '.' :: digits.chars

def decimal (n : Number) : Decimal :=
  ⟨Nat.ofDigitChars 10 (n.whole.chars ++ n.places) 0, -(n.places.length : Int)⟩

end Number

inductive Body
  | number (n : Number)
  | power (n : Option Number) (exponent : Option Digits)

namespace Body

def caretText : Option Digits → List Char
  | none => []
  | some digits => '^' :: digits.chars

def text : Body → List Char
  | .number n => n.text
  | .power n exponent => (n.map Number.text).getD [] ++ 'x' :: caretText exponent

def hasUnknown : Body → Bool
  | .number _ => false
  | .power _ _ => true

/-- A body without the unknown has exponent 0, the unknown alone exponent 1. -/
def exponent : Body → Nat
  | .number _ => 0
  | .power _ digits => (digits.map Digits.value).getD 1

/-- A missing number is one. -/
def magnitude : Body → Decimal
  | .number n => n.decimal
  | .power n _ => (n.map Number.decimal).getD ⟨1, 0⟩

end Body

structure Summand where
  negative : Bool
  body : Body

namespace Summand

def text (t : Summand) : List Char := (if t.negative then '-' else '+') :: t.body.text

/-- The nearest double to the signed number. -/
def value (t : Summand) : Float := Binary64.read t.negative t.body.magnitude

/-- What the reader accepts: an exponent that is not too high and a number that is not too large. -/
def Admissible (t : Summand) : Prop :=
  t.body.exponent ≤ maxDegree ∧ Binary64.isFinite t.value = true

end Summand

structure Sentence where
  sign : Option Bool
  body : Body
  more : List Summand

namespace Sentence

def text (s : Sentence) : List Char := signText s.sign ++ s.body.text ++ s.more.flatMap Summand.text

def first (s : Sentence) : Summand := ⟨s.sign.getD false, s.body⟩

def summands (s : Sentence) : List Summand := s.first :: s.more

def Admissible (s : Sentence) : Prop := ∀ t ∈ s.summands, t.Admissible

end Sentence

/-- `t` is the last of the summands with its exponent. -/
def IsLast (summands : List Summand) (t : Summand) : Prop :=
  ∃ before after, summands = before ++ t :: after ∧
    ∀ u ∈ after, u.body.exponent ≠ t.body.exponent

/-- `a` is the coefficient at a power: what the last summand of that power is worth, and zero when
there is none. -/
def IsEntry (summands : List Summand) (power : Nat) (a : Float) : Prop :=
  (∃ t, IsLast summands t ∧ t.body.exponent = power ∧ t.value = a) ∨
    (∀ t ∈ summands, t.body.exponent ≠ power) ∧ a = 0

/-- `highest` is the highest exponent of the unknown, 0 without any unknown. -/
def IsDegree (summands : List Summand) (highest : Nat) : Prop :=
  (∀ t ∈ summands, t.body.hasUnknown = true → t.body.exponent ≤ highest) ∧
    (highest = 0 ∨ ∃ t ∈ summands, t.body.hasUnknown = true ∧ t.body.exponent = highest)

/-- The coefficients a sentence stands for, those of the highest power first. -/
structure Describes (s : Sentence) (v : List Float) (highest : Nat) : Prop where
  degree : IsDegree s.summands highest
  length : v.length = highest + 1
  entry : ∀ power ≤ highest, ∃ a, v[highest - power]? = some a ∧ IsEntry s.summands power a
  finite : ∀ a ∈ v, Binary64.isFinite a = true

end RootFinder.Expression
