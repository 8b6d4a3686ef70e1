import Mathlib
import RootFinder.Proofs.Expression.Scanning

/-! Which lexemes may come next. Lexemes are viable when the grammar lets them go on to a sentence;
whether they do shows in the state of a small automaton, whatever the digits of the numerals. -/
namespace RootFinder.Expression

/-- The lexemes of a body: a numeral, or the unknown with an optional numeral before it and an
optional exponent, without a fraction, after it. -/
inductive IsBody : List Lexeme → Prop
  | number (n : Numeral) : IsBody [.numeral n]
  | power (n : Option Numeral) (exponent : Option (List Char)) :
      IsBody ((n.map Lexeme.numeral).toList ++ .unknown ::
        exponent.elim [] fun digits => [.caret, .numeral ⟨digits, none⟩])

/-- The lexemes of a sentence: bodies with signs between them, and perhaps one in front. -/
inductive IsSentence : List Lexeme → Prop
  | body {b : List Lexeme} (body : IsBody b) : IsSentence b
  | signed (negative : Bool) {b : List Lexeme} (body : IsBody b) :
      IsSentence (.sign negative :: b)
  | more {s : List Lexeme} (negative : Bool) {b : List Lexeme} (sentence : IsSentence s)
      (body : IsBody b) : IsSentence (s ++ .sign negative :: b)

def Viable (ls : List Lexeme) : Prop := ∃ rest, IsSentence (ls ++ rest)

/-- What has been read last. -/
inductive State
  | start
  | signed
  | number
  | unknown
  | caret
  | exponent
deriving DecidableEq, Repr

namespace State

/-- The state after one more lexeme, if it may come next. -/
def next : State → Lexeme → Option State
  | .start, .sign _ | .number, .sign _ | .unknown, .sign _ | .exponent, .sign _ => some .signed
  | .start, .numeral _ | .signed, .numeral _ => some .number
  | .start, .unknown | .signed, .unknown | .number, .unknown => some .unknown
  | .unknown, .caret => some .caret
  | .caret, .numeral ⟨_, none⟩ => some .exponent
  | _, _ => none

/-- The text may end here. -/
def complete : State → Bool
  | .number | .unknown | .exponent => true
  | .start | .signed | .caret => false

def wanted : State → Wanted
  | .start | .signed => .term
  | .caret => .exponent
  | .number | .unknown | .exponent => .sign

def run (s : State) (ls : List Lexeme) : Option State := ls.foldlM next s

variable {s t : State} {l : Lexeme} {ls : List Lexeme}

theorem run_cons : run s (l :: ls) = (s.next l).bind (run · ls) := List.foldlM_cons

theorem run_append (ks : List Lexeme) : run s (ls ++ ks) = (run s ls).bind (run · ks) :=
  List.foldlM_append

end State

section Automaton

variable {s : State} {b ls : List Lexeme}

theorem IsBody.run (body : IsBody b) (fresh : s = .start ∨ s = .signed) :
    ∃ t, State.run s b = some t ∧ t.complete = true := by
  cases body with
  | number n => rcases fresh with rfl | rfl <;> exact ⟨.number, rfl, rfl⟩
  | power n exponent =>
    cases exponent with
    | none =>
      refine ⟨.unknown, ?_, rfl⟩
      cases n <;> rcases fresh with rfl | rfl <;> rfl
    | some digits =>
      refine ⟨.exponent, ?_, rfl⟩
      cases n <;> rcases fresh with rfl | rfl <;> rfl

/-- The automaton reads every sentence to its end. -/
theorem IsSentence.run (sentence : IsSentence ls) :
    ∃ t, State.run .start ls = some t ∧ t.complete = true := by
  induction sentence with
  | body body => exact body.run (.inl rfl)
  | signed negative body => exact body.run (.inr rfl)
  | more negative sentence body ih =>
    obtain ⟨t, before, complete⟩ := ih
    obtain ⟨u, after, done⟩ := body.run (.inr rfl)
    have sign : t.next (.sign negative) = some .signed := by
      cases t <;> first | rfl | cases complete
    refine ⟨u, ?_, done⟩
    rw [State.run_append, before, Option.bind_some, State.run_cons, sign]
    exact after

/-- Every body after these lexemes makes a sentence of them. -/
def Opens (before : List Lexeme) : Prop := ∀ b, IsBody b → IsSentence (before ++ b)

/-- What the automaton has read when it is in a state: an opening and part of a body. -/
inductive Reached : State → List Lexeme → Prop
  | start : Reached .start []
  | signed {before : List Lexeme} (opens : Opens before) : Reached .signed before
  | number {before : List Lexeme} (opens : Opens before) (n : Numeral) :
      Reached .number (before ++ [.numeral n])
  | unknown {before : List Lexeme} (opens : Opens before) (n : Option Numeral) :
      Reached .unknown (before ++ ((n.map Lexeme.numeral).toList ++ [.unknown]))
  | caret {before : List Lexeme} (opens : Opens before) (n : Option Numeral) :
      Reached .caret (before ++ ((n.map Lexeme.numeral).toList ++ [.unknown, .caret]))
  | exponent {before : List Lexeme} (opens : Opens before) (n : Option Numeral)
      (digits : List Char) : Reached .exponent
        (before ++ ((n.map Lexeme.numeral).toList ++ [.unknown, .caret, .numeral ⟨digits, none⟩]))

namespace Reached

theorem isSentence (h : Reached s ls) (complete : s.complete = true) : IsSentence ls := by
  cases h with
  | start => cases complete
  | signed => cases complete
  | caret => cases complete
  | number opens n => exact opens _ (.number n)
  | unknown opens n => exact opens _ (.power n none)
  | exponent opens n digits => exact opens _ (.power n (some digits))

theorem viable (h : Reached s ls) : Viable ls := by
  cases h with
  | start => exact ⟨[.unknown], .body (.power none none)⟩
  | signed opens => exact ⟨[.unknown], opens _ (.power none none)⟩
  | number opens n => exact ⟨[], by simpa using opens _ (.number n)⟩
  | unknown opens n => exact ⟨[], by simpa using opens _ (.power n none)⟩
  | caret opens n =>
    refine ⟨[.numeral ⟨[], none⟩], ?_⟩
    simpa using opens _ (.power n (some []))
  | exponent opens n digits => exact ⟨[], by simpa using opens _ (.power n (some digits))⟩

end Reached

theorem opens_nil : Opens [] := fun _ body => .body body

theorem opens_sign (negative : Bool) (h : ls = [] ∨ IsSentence ls) :
    Opens (ls ++ [.sign negative]) := by
  intro b body
  rw [List.append_assoc]
  rcases h with rfl | sentence
  · exact .signed negative body
  · exact .more negative sentence body

/-- After a sign any body may come. -/
theorem Reached.sign (h : Reached s ls) (negative : Bool) (empty : s = .start ∨ s.complete = true) :
    Reached .signed (ls ++ [.sign negative]) := by
  refine .signed (opens_sign negative ?_)
  rcases empty with rfl | complete
  · cases h
    exact .inl rfl
  · exact .inr (h.isSentence complete)

/-- One step of the automaton. -/
theorem Reached.next {t : State} {l : Lexeme} (h : Reached s ls) (step : s.next l = some t) :
    Reached t (ls ++ [l]) := by
  cases l with
  | sign negative =>
    cases s <;> cases step
    · exact h.sign negative (.inl rfl)
    all_goals exact h.sign negative (.inr rfl)
  | numeral n =>
    cases h with
    | start =>
      cases step
      exact .number opens_nil n
    | signed opens =>
      cases step
      exact .number opens n
    | caret opens m =>
      obtain ⟨digits, _ | fraction⟩ := n
      · cases step
        simpa using Reached.exponent opens m digits
      · cases step
    | _ => cases step
  | unknown =>
    cases h with
    | start =>
      cases step
      exact .unknown opens_nil none
    | signed opens =>
      cases step
      exact .unknown opens none
    | number opens n =>
      cases step
      simpa using Reached.unknown opens (some n)
    | _ => cases step
  | caret =>
    cases h with
    | unknown opens n =>
      cases step
      simpa using Reached.caret opens n
    | _ => cases step

theorem reached_of_run (run : State.run .start ls = some s) : Reached s ls := by
  induction ls using List.reverseRecOn generalizing s with
  | nil =>
    cases run
    exact .start
  | append_singleton ls l ih =>
    rw [State.run_append, Option.bind_eq_some_iff] at run
    obtain ⟨t, before, step⟩ := run
    rw [State.run_cons, Option.bind_eq_some_iff] at step
    obtain ⟨u, step, same⟩ := step
    cases same
    exact (ih before).next step

/-- Lexemes are a sentence when the automaton reads them to an end. -/
theorem isSentence_iff_run :
    IsSentence ls ↔ ∃ s, State.run .start ls = some s ∧ s.complete = true :=
  ⟨IsSentence.run, fun ⟨_, run, complete⟩ => (reached_of_run run).isSentence complete⟩

/-- Lexemes are viable when the automaton reads them. -/
theorem viable_iff_run : Viable ls ↔ ∃ s, State.run .start ls = some s := by
  constructor
  · rintro ⟨rest, sentence⟩
    obtain ⟨t, run, -⟩ := sentence.run
    rw [State.run_append, Option.bind_eq_some_iff] at run
    obtain ⟨s, before, -⟩ := run
    exact ⟨s, before⟩
  · rintro ⟨s, run⟩
    exact (reached_of_run run).viable

theorem run_concat {l : Lexeme} (run : State.run .start ls = some s) :
    State.run .start (ls ++ [l]) = s.next l := by
  rw [State.run_append, run, Option.bind_some, State.run_cons]
  exact Option.bind_fun_some _

/-- Lexemes that the automaton does not go on to read are not viable. -/
theorem not_viable_of_stuck {l : Lexeme} (run : State.run .start ls = some s)
    (stuck : s.next l = none) : ¬ Viable (ls ++ [l]) := by
  intro viable
  obtain ⟨t, further⟩ := viable_iff_run.mp viable
  rw [run_concat run, stuck] at further
  cases further

/-- Lexemes after which more is wanted are no sentence. -/
theorem not_isSentence_of_unfinished (run : State.run .start ls = some s)
    (unfinished : s.complete = false) : ¬ IsSentence ls := by
  intro sentence
  obtain ⟨t, again, complete⟩ := isSentence_iff_run.mp sentence
  rw [run] at again
  cases again
  rw [unfinished] at complete
  cases complete

end Automaton

section Grammar

variable {b ls : List Lexeme}

theorem Body.isBody (body : Body) : IsBody body.lexemes := by
  match body with
  | .number n => exact .number n.numeral
  | .power none none => exact .power none none
  | .power none (some digits) => exact .power none (some digits.chars)
  | .power (some n) none => exact .power (some n.numeral) none
  | .power (some n) (some digits) => exact .power (some n.numeral) (some digits.chars)

/-- The lexemes of a sentence of the grammar are one here. -/
theorem Sentence.isSentence (s : Sentence) : IsSentence s.lexemes := by
  obtain ⟨sign, body, more⟩ := s
  induction more using List.reverseRecOn with
  | nil =>
    rw [Sentence.lexemes, List.flatMap_nil, List.append_nil]
    cases sign with
    | none => exact .body body.isBody
    | some negative => exact .signed negative body.isBody
  | append_singleton more t ih =>
    have split : Sentence.lexemes ⟨sign, body, more ++ [t]⟩ =
        Sentence.lexemes ⟨sign, body, more⟩ ++ .sign t.negative :: t.body.lexemes := by
      simp [Sentence.lexemes, Summand.lexemes]
    rw [split]
    exact .more t.negative ih t.body.isBody

theorem IsBody.exists_body (body : IsBody b) (plain : Plain b) :
    ∃ body : Body, body.lexemes = b := by
  cases body with
  | number n =>
    obtain ⟨m, rfl⟩ := plain n List.mem_cons_self
    exact ⟨.number m, rfl⟩
  | power n exponent =>
    have digits : ∃ d : Option Digits, d.map Digits.chars = exponent := by
      cases exponent with
      | none => exact ⟨none, rfl⟩
      | some digits =>
        obtain ⟨m, same⟩ := plain ⟨digits, none⟩ (by simp)
        exact ⟨some m.whole, congrArg (fun k : Numeral => some k.whole) same⟩
    obtain ⟨d, rfl⟩ := digits
    cases n with
    | none => exact ⟨.power none d, by cases d <;> rfl⟩
    | some n =>
      obtain ⟨m, rfl⟩ := plain n (by simp)
      exact ⟨.power (some m) d, by cases d <;> rfl⟩

/-- Of plain numerals these are the sentences of the grammar. -/
theorem isSentence_iff (plain : Plain ls) : IsSentence ls ↔ ∃ s : Sentence, s.lexemes = ls := by
  constructor
  · intro sentence
    induction sentence with
    | body isBody =>
      obtain ⟨body, rfl⟩ := isBody.exists_body plain
      exact ⟨⟨none, body, []⟩, by simp [Sentence.lexemes]⟩
    | signed negative isBody =>
      obtain ⟨body, rfl⟩ := isBody.exists_body fun n member =>
        plain n (List.mem_cons_of_mem _ member)
      exact ⟨⟨some negative, body, []⟩, by simp [Sentence.lexemes]⟩
    | more negative sentence isBody ih =>
      obtain ⟨⟨sign, first, more⟩, rfl⟩ := ih fun n member =>
        plain n (List.mem_append_left _ member)
      obtain ⟨body, rfl⟩ := isBody.exists_body fun n member =>
        plain n (List.mem_append_right _ (List.mem_cons_of_mem _ member))
      refine ⟨⟨sign, first, more ++ [⟨negative, body⟩]⟩, ?_⟩
      simp [Sentence.lexemes, Summand.lexemes]
  · rintro ⟨s, rfl⟩
    exact s.isSentence

end Grammar
end RootFinder.Expression
