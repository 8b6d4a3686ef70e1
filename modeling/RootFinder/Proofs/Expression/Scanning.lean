import Mathlib
import RootFinder.Proofs.Expression.Grammar

/-! The tokens of a text and the lexemes of a sentence. A text is the tokens scanned from it, put
together; the text of a sentence is scanned into the lexemes of the sentence, since no numeral goes
on into the next lexeme. -/
namespace RootFinder.Expression

open Text (isDigit)

def Number.numeral (n : Number) : Numeral := ⟨n.whole.chars, n.fraction.map Digits.chars⟩

namespace Body

def caretLexemes : Option Digits → List Lexeme
  | none => []
  | some digits => [.caret, .numeral ⟨digits.chars, none⟩]

def lexemes : Body → List Lexeme
  | .number n => [.numeral n.numeral]
  | .power none exponent => .unknown :: caretLexemes exponent
  | .power (some n) exponent => .numeral n.numeral :: .unknown :: caretLexemes exponent

end Body

def Summand.lexemes (t : Summand) : List Lexeme := .sign t.negative :: t.body.lexemes

def Sentence.lexemes (s : Sentence) : List Lexeme :=
  (s.sign.map Lexeme.sign).toList ++ s.body.lexemes ++ s.more.flatMap Summand.lexemes

theorem isDigit_plain {c : Char} (h : c.isDigit = true) : isDigit c = true := by
  have bounds := Char.isDigit_iff_toNat.mp h
  rw [isDigit, Text.CharSet.contains_iff]
  exact ⟨(0x30, 0x39), List.mem_cons_self, bounds⟩

theorem Number.text_numeral (n : Number) : n.numeral.text = n.text := by
  obtain ⟨whole, fraction⟩ := n
  cases fraction with
  | none => exact (List.append_nil _).symm
  | some digits => rfl

theorem Digits.head (d : Digits) : ∃ c cs, d.chars = c :: cs ∧ isDigit c = true := by
  obtain ⟨c, cs, same⟩ := List.exists_cons_of_ne_nil d.begun
  exact ⟨c, cs, same, isDigit_plain (d.plain c (same ▸ List.mem_cons_self))⟩

/-- No character of a numeral comes next. -/
def Apart (rest : List Char) : Prop := ∀ c ∈ rest.head?, isDigit c = false ∧ c ≠ '.'

theorem dropWhile_run {digits rest : List Char} (all : ∀ c ∈ digits, isDigit c = true)
    (apart : ∀ c ∈ rest.head?, isDigit c = false) :
    (digits ++ rest).dropWhile isDigit = rest := by
  rw [List.dropWhile_append_of_pos all]
  cases rest with
  | nil => rfl
  | cons c rest => rw [List.dropWhile_cons_of_neg (by simp [apart c rfl])]

theorem takeWhile_run {digits rest : List Char} (all : ∀ c ∈ digits, isDigit c = true)
    (apart : ∀ c ∈ rest.head?, isDigit c = false) :
    (digits ++ rest).takeWhile isDigit = digits := by
  rw [List.takeWhile_append_of_pos all]
  cases rest with
  | nil => exact List.append_nil _
  | cons c rest => rw [List.takeWhile_cons_of_neg (by simp [apart c rfl]), List.append_nil]

/-- The numeral is as long as what follows it allows. -/
structure Numeral.Cut (n : Numeral) (rest : List Char) : Prop where
  begun : n.whole ≠ []
  whole : ∀ c ∈ n.whole, isDigit c = true
  fraction : ∀ digits, n.fraction = some digits → digits ≠ [] ∧ ∀ c ∈ digits, isDigit c = true
  apart : ∀ c ∈ rest.head?, isDigit c = false
  point : n.fraction = none → ∀ d more, rest = '.' :: d :: more → isDigit d = false

theorem isDigit_point : isDigit '.' = false := by decide +kernel

/-- A numeral that could not be longer is the one that is split off. -/
theorem split_eq {n : Numeral} {rest : List Char} (cut : n.Cut rest) :
    Numeral.split (n.text ++ rest) = (n, rest) := by
  obtain ⟨whole, fraction⟩ := n
  cases fraction with
  | none =>
    simp only [Numeral.text, Numeral.split]
    rw [takeWhile_run cut.whole cut.apart, dropWhile_run cut.whole cut.apart]
    split
    · rename_i d more
      rw [if_neg (Bool.eq_false_iff.mp (cut.point rfl d more rfl))]
    · rfl
  | some places =>
    obtain ⟨begun, digits⟩ := cut.fraction places rfl
    obtain ⟨d, others, rfl⟩ := List.exists_cons_of_ne_nil begun
    have point : ∀ c ∈ ('.' :: d :: others ++ rest).head?, isDigit c = false := by
      rintro c ⟨⟩
      exact isDigit_point
    obtain ⟨first, more⟩ := List.forall_mem_cons.mp digits
    simp only [Numeral.text, Numeral.split, List.append_assoc]
    rw [takeWhile_run cut.whole point, dropWhile_run cut.whole point]
    simp only [List.cons_append, first, if_true]
    rw [takeWhile_run more cut.apart, dropWhile_run more cut.apart]

/-- The longest numeral of a text that goes on with something else is the number written there. -/
theorem split_number (n : Number) {rest : List Char} (apart : Apart rest) :
    Numeral.split (n.text ++ rest) = (n.numeral, rest) := by
  have digits (d : Digits) : ∀ c ∈ d.chars, isDigit c = true := fun c member =>
    isDigit_plain (d.plain c member)
  have cut : n.numeral.Cut rest := by
    refine ⟨n.whole.begun, digits n.whole, ?_, fun c head => (apart c head).1, ?_⟩
    · intro places same
      obtain ⟨d, -, rfl⟩ := Option.map_eq_some_iff.mp same
      exact ⟨d.begun, digits d⟩
    · rintro - d more rfl
      exact absurd rfl (apart '.' rfl).2
  rw [← n.text_numeral]
  exact split_eq cut

/-- Scanned from any position, the text gives these lexemes. -/
def Scans (cs : List Char) (lexemes : List Lexeme) : Prop :=
  ∀ position, ∃ ts, scan position cs = .ok ts ∧ ts.map Token.lexeme = lexemes

namespace Scans

variable {rest : List Char} {lexemes : List Lexeme}

theorem nil : Scans [] [] := by
  intro position
  refine ⟨[], ?_, rfl⟩
  rw [scan]

theorem sign (negative : Bool) (h : Scans rest lexemes) :
    Scans ((if negative then '-' else '+') :: rest) (.sign negative :: lexemes) := by
  intro position
  obtain ⟨ts, scanned, same⟩ := h (position + 1)
  refine ⟨⟨.sign negative, position⟩ :: ts, ?_, by rw [List.map_cons, same]⟩
  rw [scan]
  cases negative <;> simp [scanned, Except.map]

theorem unknown (h : Scans rest lexemes) : Scans ('x' :: rest) (.unknown :: lexemes) := by
  intro position
  obtain ⟨ts, scanned, same⟩ := h (position + 1)
  refine ⟨⟨.unknown, position⟩ :: ts, ?_, by rw [List.map_cons, same]⟩
  have letter : isDigit 'x' = false := by decide +kernel
  rw [scan]
  simp [letter, scanned, Except.map]

theorem caret (h : Scans rest lexemes) : Scans ('^' :: rest) (.caret :: lexemes) := by
  intro position
  obtain ⟨ts, scanned, same⟩ := h (position + 1)
  refine ⟨⟨.caret, position⟩ :: ts, ?_, by rw [List.map_cons, same]⟩
  have mark : isDigit '^' = false := by decide +kernel
  rw [scan]
  simp [mark, scanned, Except.map]

theorem number (n : Number) (apart : Apart rest) (h : Scans rest lexemes) :
    Scans (n.text ++ rest) (.numeral n.numeral :: lexemes) := by
  intro position
  have split := split_number n apart
  obtain ⟨c, cs, same, digit⟩ := n.whole.head
  have notSign : ¬ (c = '+' ∨ c = '-') := by
    rintro (rfl | rfl) <;> revert digit <;> decide +kernel
  obtain ⟨more, text⟩ : ∃ more, n.text ++ rest = c :: more := by
    rw [Number.text, same]
    exact ⟨_, rfl⟩
  obtain ⟨ts, scanned, lexemes⟩ := h (position + n.numeral.text.length)
  refine ⟨⟨.numeral n.numeral, position⟩ :: ts, ?_, by rw [List.map_cons, lexemes]⟩
  rw [text] at split ⊢
  rw [scan, if_neg notSign, if_pos digit, split, scanned]
  rfl

theorem digits (d : Digits) (apart : Apart rest) (h : Scans rest lexemes) :
    Scans (d.chars ++ rest) (.numeral ⟨d.chars, none⟩ :: lexemes) := by
  have scanned := number ⟨d, none⟩ apart h
  rw [Number.text, List.append_nil] at scanned
  exact scanned

end Scans

/-- Nothing comes next, or a sign. -/
def Ends (rest : List Char) : Prop := ∀ c ∈ rest.head?, c = '+' ∨ c = '-'

theorem Ends.apart {rest : List Char} (ends : Ends rest) : Apart rest := by
  intro c head
  rcases ends c head with rfl | rfl <;> decide +kernel

theorem ends_more (more : List Summand) : Ends (more.flatMap Summand.text) := by
  intro c head
  cases more with
  | nil => cases head
  | cons t more =>
    cases head
    cases t.negative
    · exact .inl rfl
    · exact .inr rfl

namespace Body

variable {rest : List Char} {lexemes : List Lexeme}

theorem scans_caret (exponent : Option Digits) (ends : Ends rest) (h : Scans rest lexemes) :
    Scans (caretText exponent ++ rest) (caretLexemes exponent ++ lexemes) := by
  cases exponent with
  | none => exact h
  | some digits => exact (h.digits digits ends.apart).caret

theorem scans (body : Body) (ends : Ends rest) (h : Scans rest lexemes) :
    Scans (body.text ++ rest) (body.lexemes ++ lexemes) := by
  cases body with
  | number n => exact h.number n ends.apart
  | power n exponent =>
    have unknown := (scans_caret exponent ends h).unknown
    cases n with
    | none => exact unknown
    | some n =>
      have apart : Apart ('x' :: (caretText exponent ++ rest)) := by
        rintro c ⟨⟩
        decide +kernel
      simp only [text, Body.lexemes, Option.map_some, Option.getD_some, List.append_assoc]
      exact unknown.number n apart

end Body

theorem scans_more (more : List Summand) :
    Scans (more.flatMap Summand.text) (more.flatMap Summand.lexemes) := by
  induction more with
  | nil => exact .nil
  | cons t more ih => exact (t.body.scans (ends_more more) ih).sign t.negative

/-- The text of a sentence is scanned into its lexemes. -/
theorem Sentence.scans (s : Sentence) : Scans s.text s.lexemes := by
  have body := s.body.scans (ends_more s.more) (scans_more s.more)
  simp only [Sentence.text, Sentence.lexemes, List.append_assoc]
  cases s.sign with
  | none => exact body
  | some negative => exact body.sign negative

/-- Every numeral among the lexemes is a number of the grammar. -/
def Plain (lexemes : List Lexeme) : Prop :=
  ∀ n, .numeral n ∈ lexemes → ∃ m : Number, m.numeral = n

/-- Every digit of a text is one of the grammar's. -/
def PlainDigits (cs : List Char) : Prop := ∀ c ∈ cs, isDigit c = true → c.isDigit = true

/-- The reading stops at a flaw of the text. -/
def Refused (result : Except Error α) : Prop :=
  ∃ flaw position, result = .error (.invalid flaw position)

theorem Refused.ne_ok {result : Except Error α} {a : α} (h : Refused result) :
    result ≠ .ok a := by
  obtain ⟨flaw, position, rfl⟩ := h
  rintro ⟨⟩

theorem Refused.map {result : Except Error α} (f : α → β) (h : Refused result) :
    Refused (result.map f) := by
  obtain ⟨flaw, position, rfl⟩ := h
  exact ⟨flaw, position, rfl⟩

private theorem digits_run {cs : List Char} (plain : PlainDigits cs) :
    ∀ c ∈ cs.takeWhile isDigit, c.isDigit = true := by
  intro c member
  exact plain c (List.takeWhile_subset _ member) (List.mem_takeWhile_imp member)

/-- A numeral split off a text of plain digits is a number of the grammar. -/
theorem split_plain {c : Char} {cs : List Char} (digit : isDigit c = true)
    (plain : PlainDigits (c :: cs)) : ∃ n : Number, n.numeral = (Numeral.split (c :: cs)).1 := by
  have begun : (c :: cs).takeWhile isDigit ≠ [] := by
    rw [List.takeWhile_cons_of_pos digit]
    exact List.cons_ne_nil _ _
  let whole : Digits := ⟨(c :: cs).takeWhile isDigit, begun, digits_run plain⟩
  unfold Numeral.split
  dsimp only
  split
  · rename_i d rest after
    split
    · rename_i inner
      have subset : ∀ other ∈ d :: rest, other ∈ c :: cs := by
        intro other member
        apply List.dropWhile_subset isDigit
        rw [after]
        exact List.mem_cons_of_mem _ member
      have plainRest : PlainDigits (d :: rest) := fun other member =>
        plain other (subset other member)
      have run : d :: rest.takeWhile isDigit = (d :: rest).takeWhile isDigit :=
        (List.takeWhile_cons_of_pos inner).symm
      refine ⟨⟨whole, some ⟨d :: rest.takeWhile isDigit, List.cons_ne_nil _ _, ?_⟩⟩, rfl⟩
      rw [run]
      exact digits_run plainRest
    · exact ⟨⟨whole, none⟩, rfl⟩
  · exact ⟨⟨whole, none⟩, rfl⟩

/-- What scanning a text of plain digits comes to: a flaw, or tokens that give the text back and
whose numerals are all numbers of the grammar. -/
def Scanned (cs : List Char) (result : Except Error (List Token)) : Prop :=
  Refused result ∨ ∃ ts, result = .ok ts ∧ (ts.map Token.lexeme).flatMap Lexeme.text = cs ∧
    Plain (ts.map Token.lexeme)

theorem Scanned.cons {cs rest : List Char} {result : Except Error (List Token)} {t : Token}
    (text : t.lexeme.text ++ rest = cs)
    (plain : ∀ n, t.lexeme = .numeral n → ∃ m : Number, m.numeral = n)
    (h : Scanned rest result) : Scanned cs (result.map (t :: ·)) := by
  rcases h with refused | ⟨ts, rfl, same, all⟩
  · exact .inl (refused.map _)
  · refine .inr ⟨t :: ts, rfl, ?_, ?_⟩
    · rw [List.map_cons, List.flatMap_cons, same]
      exact text
    · intro n member
      rcases List.mem_cons.mp member with head | tail
      · exact plain n head.symm
      · exact all n tail

theorem PlainDigits.of_append {a b cs : List Char} (h : PlainDigits cs) (text : a ++ b = cs) :
    PlainDigits b := by
  intro c member
  apply h
  rw [← text]
  exact List.mem_append_right _ member

theorem scan_scanned (position : Nat) {cs : List Char} (plain : PlainDigits cs) :
    Scanned cs (scan position cs) := by
  fun_induction scan position cs with
  | case1 => exact .inr ⟨[], rfl, rfl, by simp [Plain]⟩
  | case2 position c rest sign ih =>
    have text : (Lexeme.sign (c = '-')).text ++ rest = c :: rest := by
      rcases sign with rfl | rfl <;> rfl
    refine Scanned.cons text ?_ (ih (plain.of_append text))
    rintro n ⟨⟩
  | case3 position c rest _ digit ih =>
    have text := Numeral.text_split (c :: rest)
    refine Scanned.cons text ?_ (ih (plain.of_append text))
    rintro n ⟨⟩
    exact split_plain digit plain
  | case4 position rest _ _ ih =>
    have text : Lexeme.unknown.text ++ rest = 'x' :: rest := rfl
    refine Scanned.cons text ?_ (ih (plain.of_append text))
    rintro n ⟨⟩
  | case5 position rest _ _ _ ih =>
    have text : Lexeme.caret.text ++ rest = '^' :: rest := rfl
    refine Scanned.cons text ?_ (ih (plain.of_append text))
    rintro n ⟨⟩
  | case6 position c => exact .inl ⟨.unexpected c, position, rfl⟩

end RootFinder.Expression
