import RootFinder.Binary64
import RootFinder.Expression.Error
import RootFinder.Text.Digit

/-! Tokens of an expression: signs, numerals, the unknown and the caret. A numeral is a run of
digits with an optional fraction, both as long as the text allows; the tokens of a text, put
together, are the text. -/
namespace RootFinder.Expression

open Text (isDigit decimalValue?)

/-- Digits, and the digits after a point if there is one. -/
structure Numeral where
  whole : List Char
  fraction : Option (List Char)
deriving DecidableEq, Repr

namespace Numeral

def text (n : Numeral) : List Char :=
  match n.fraction with
  | none => n.whole
  | some digits => n.whole ++ '.' :: digits

/-- Splits the longest numeral off a text that begins with a digit. A point belongs to it only
when a digit follows. -/
def split (cs : List Char) : Numeral × List Char :=
  let whole := cs.takeWhile isDigit
  match cs.dropWhile isDigit with
  | '.' :: d :: rest =>
    if isDigit d then (⟨whole, some (d :: rest.takeWhile isDigit)⟩, rest.dropWhile isDigit)
    else (⟨whole, none⟩, '.' :: d :: rest)
  | rest => (⟨whole, none⟩, rest)

/-- The value of a digit string in base ten. -/
def ofDigits (values : List Nat) : Nat := values.foldl (fun n d => 10 * n + d) 0

/-- The number denoted, if every digit has a place value. -/
def value? (n : Numeral) : Option Decimal :=
  let places := n.fraction.getD []
  ((n.whole ++ places).mapM decimalValue?).map fun values =>
    ⟨ofDigits values, -(places.length : Int)⟩

theorem text_split (cs : List Char) : (split cs).1.text ++ (split cs).2 = cs := by
  unfold split
  dsimp only
  split
  · rename_i d rest h
    split
    · simp only [text, List.append_assoc, List.cons_append, List.takeWhile_append_dropWhile]
      rw [← h, List.takeWhile_append_dropWhile]
    · simp only [text]
      rw [← h, List.takeWhile_append_dropWhile]
  · simp only [text]
    rw [List.takeWhile_append_dropWhile]

theorem split_shorter {c : Char} {cs : List Char} (h : isDigit c = true) :
    (split (c :: cs)).2.length < (c :: cs).length := by
  have same := congrArg List.length (text_split (c :: cs))
  have begun : 0 < (split (c :: cs)).1.text.length := by
    unfold split
    dsimp only
    split
    · split <;> simp [text, h]
    · simp [text, h]
  rw [List.length_append] at same
  omega

end Numeral

inductive Lexeme
  | sign (negative : Bool)
  | numeral (n : Numeral)
  | unknown
  | caret
deriving DecidableEq, Repr

def Lexeme.text : Lexeme → List Char
  | .sign negative => [if negative then '-' else '+']
  | .numeral n => n.text
  | .unknown => ['x']
  | .caret => ['^']

/-- A lexeme and the number of characters before it. -/
structure Token where
  lexeme : Lexeme
  position : Nat
deriving DecidableEq, Repr

/-- The tokens of a text that stands `position` characters into the whole. -/
def scan (position : Nat) (cs : List Char) : Except Error (List Token) :=
  match cs with
  | [] => .ok []
  | c :: rest =>
    if c = '+' ∨ c = '-' then
      (scan (position + 1) rest).map (⟨.sign (c = '-'), position⟩ :: ·)
    else if isDigit c then
      (scan (position + (Numeral.split (c :: rest)).1.text.length)
        (Numeral.split (c :: rest)).2).map
          (⟨.numeral (Numeral.split (c :: rest)).1, position⟩ :: ·)
    else if c = 'x' then (scan (position + 1) rest).map (⟨.unknown, position⟩ :: ·)
    else if c = '^' then (scan (position + 1) rest).map (⟨.caret, position⟩ :: ·)
    else .error (.invalid (.unexpected c) position)
termination_by cs.length
decreasing_by
  · simp
  · exact Numeral.split_shorter ‹_›
  · simp
  · simp

def tokens (cs : List Char) : Except Error (List Token) := scan 0 cs

end RootFinder.Expression
