import Mathlib
import RootFinder.Proofs.Expression.Position
import RootFinder.Proofs.Expression.Splitting

/-! Where the reader of tokens fails. As long as all numbers are within bounds, only the grammar can be
violated, and it is refused at the first token that no sentence has in its place, or at the end of a
text that would have to go on. -/
namespace RootFinder.Expression

def InLanguage (ls : List Lexeme) : Prop := ∃ s : Sentence, s.lexemes = ls

def BeginsSentence (ls : List Lexeme) : Prop := ∃ s : Sentence, ls <+: s.lexemes

/-- Every numeral is one of plain digits and of a finite value, and no exponent is too high. -/
structure Bounded (ls : List Lexeme) : Prop where
  finite : ∀ n, .numeral n ∈ ls →
    ∃ m : Number, m.numeral = n ∧ Binary64.isFinite (Binary64.read false m.decimal) = true
  exponent : ∀ (before after : List Lexeme) (d : Digits),
    ls = before ++ .caret :: .numeral ⟨d.chars, none⟩ :: after → d.value ≤ maxDegree

/-- How tokens of a text of length `finish` violate the grammar: a token is the first that no sentence
has there, or they end before any sentence does. -/
inductive Violation (finish : Nat) (ts : List Token) : Error → Prop
  | token {before after : List Token} {t : Token} (same : ts = before ++ t :: after)
      (viable : BeginsSentence (before.map Token.lexeme))
      (stuck : ¬ BeginsSentence ((before ++ [t]).map Token.lexeme)) :
      Violation finish ts
        (.invalid (.expected (wanted (before.map Token.lexeme)) (some t.lexeme.text)) t.position)
  | ends (viable : BeginsSentence (ts.map Token.lexeme))
      (unfinished : ¬ InLanguage (ts.map Token.lexeme)) :
      Violation finish ts (.invalid (.expected (wanted (ts.map Token.lexeme)) none) finish)

section Sentences

variable {ls before : List Lexeme} {flaw : Flaw}

theorem Bounded.plain (bounded : Bounded ls) : Plain ls := by
  intro n member
  obtain ⟨m, same, -⟩ := bounded.finite n member
  exact ⟨m, same⟩

theorem inLanguage_iff (plain : Plain ls) : InLanguage ls ↔ IsSentence ls :=
  (isSentence_iff plain).symm

def State.ending : State → List Lexeme
  | .start | .signed => [.unknown]
  | .caret => [.numeral ⟨(Digits.ofNat 1).chars, none⟩]
  | .number | .unknown | .exponent => []

theorem State.run_ending (s : State) : ∃ t, s.run s.ending = some t ∧ t.complete = true := by
  cases s <;> exact ⟨_, rfl, rfl⟩

theorem State.plain_ending (s : State) : Plain s.ending := by
  intro n member
  cases s with
  | caret =>
    obtain rfl : n = ⟨(Digits.ofNat 1).chars, none⟩ := by simpa [State.ending] using member
    exact ⟨⟨Digits.ofNat 1, none⟩, rfl⟩
  | _ => simp [State.ending] at member

/-- Plain lexemes that may go on to a sentence may do so with plain ones. -/
theorem beginsSentence_iff (plain : Plain ls) : BeginsSentence ls ↔ Viable ls := by
  constructor
  · rintro ⟨s, rest, same⟩
    exact ⟨rest, same ▸ s.isSentence⟩
  · intro viable
    obtain ⟨s, run⟩ := viable_iff_run.mp viable
    obtain ⟨t, further, complete⟩ := s.run_ending
    have whole : State.run .start (ls ++ s.ending) = some t := by
      rw [State.run_append, run, Option.bind_some, further]
    have plain : Plain (ls ++ s.ending) := fun n member =>
      (List.mem_append.mp member).elim (plain n) (s.plain_ending n)
    obtain ⟨sentence, same⟩ :=
      (isSentence_iff plain).mp (isSentence_iff_run.mpr ⟨t, whole, complete⟩)
    exact ⟨sentence, s.ending, same.symm⟩

theorem Plain.of_prefix {ks : List Lexeme} (plain : Plain ks) (part : ls <+: ks) : Plain ls :=
  fun n member => plain n (part.subset member)

theorem BeginsSentence.of_append {more : List Lexeme} (h : BeginsSentence (ls ++ more)) :
    BeginsSentence ls := by
  obtain ⟨s, goesOn⟩ := h
  exact ⟨s, (List.prefix_append ls more).trans goesOn⟩

theorem InLanguage.begins (h : InLanguage ls) : BeginsSentence ls := by
  obtain ⟨s, rfl⟩ := h
  exact ⟨s, List.prefix_rfl⟩

/-- Numbers within bounds are neither too high nor too large. -/
theorem Bounded.wrong (bounded : Bounded ls) (h : Wrong .start ls before flaw) :
    (∃ l rest, ls = before ++ l :: rest ∧ flaw = .expected (wanted before) (some l.text) ∧
        Viable before ∧ ¬ Viable (before ++ [l])) ∨
      (ls = before ∧ flaw = .expected (wanted before) none ∧ Viable before ∧ ¬ IsSentence ls) := by
  obtain ⟨s, rest, rfl, run, wrong⟩ := h.here
  obtain ⟨want, caret⟩ := wanted_of_run run
  have viable : Viable before := viable_iff_run.mpr ⟨s, run⟩
  cases wrong with
  | @misplaced _ l rest stuck =>
    exact .inl ⟨l, rest, rfl, by rw [want], viable, not_viable_of_stuck run stuck⟩
  | @exponent digits rest high =>
    obtain ⟨⟨d, fraction⟩, same, -⟩ := bounded.finite ⟨digits, none⟩ (by simp)
    obtain rfl : d.chars = digits := congrArg Numeral.whole same
    obtain ⟨front, rfl⟩ := List.getLast?_eq_some_iff.mp (caret.mpr rfl)
    have low := bounded.exponent front rest d (List.append_assoc _ _ _)
    exact absurd ((tooHigh_iff d).mp high) (Nat.not_lt.mpr low)
  | @coefficient _ t n rest apart step large =>
    obtain ⟨m, rfl, finite⟩ := bounded.finite n (by simp)
    obtain ⟨d, value, infinite⟩ := large
    rw [value?_numeral] at value
    cases value
    exact absurd (Binary64.isFinite_read.mp finite) (Nat.not_lt.mpr infinite)
  | ends unfinished =>
    refine .inr ⟨List.append_nil _, by rw [want], viable, ?_⟩
    rw [List.append_nil]
    exact not_isSentence_of_unfinished run unfinished

end Sentences

section Reading

variable {cs : List Char} {ts : List Token} {finish : Nat}

theorem Violation.not_inLanguage {e : Error} (h : Violation finish ts e) :
    ¬ InLanguage (ts.map Token.lexeme) := by
  cases h with
  | @token before after t same viable stuck =>
    intro grammatical
    have begins := grammatical.begins
    rw [same, List.append_cons, List.map_append] at begins
    exact stuck begins.of_append
  | ends viable unfinished => exact unfinished

theorem readTerms_refused_or (bounded : Bounded (ts.map Token.lexeme)) :
    Refused (readTerms finish ts) ∨ ∃ s : Sentence, s.lexemes = ts.map Token.lexeme ∧
      readTerms finish ts = .ok (s.summands.map Summand.term) := by
  rcases readTerms_finds finish bounded.plain with refused | ⟨s, same⟩
  · exact .inl refused
  · rcases readTerms_gives finish s same with ⟨-, read⟩ | ⟨-, refused⟩
    · exact .inr ⟨s, same.symm, read⟩
    · exact .inl refused

/-- What is refused violates the grammar. -/
theorem violation_of_refused (placed : Placed finish 0 ts) (bounded : Bounded (ts.map Token.lexeme))
    {flaw : Flaw} {position : Nat}
    (failed : readTerms finish ts = .error (.invalid flaw position)) :
    Violation finish ts (.invalid flaw position) := by
  obtain ⟨before, rfl, chosen⟩ := readTerms_refused placed failed
  have plain := bounded.plain
  rcases bounded.wrong chosen.wrong with
    ⟨l, rest, same, rfl, viable, stuck⟩ | ⟨same, rfl, viable, unfinished⟩
  · obtain ⟨front, others, rfl, rfl, tail⟩ := List.map_eq_append_iff.mp same
    obtain ⟨t, after, rfl, rfl, rfl⟩ := List.map_eq_cons_iff.mp tail
    have position : width (front.map Token.lexeme) = t.position := by
      rw [position_of_placed placed rfl, Nat.zero_add, spelling_eq, width]
    have whole : (front ++ t :: after).map Token.lexeme =
        (front ++ [t]).map Token.lexeme ++ after.map Token.lexeme := by simp
    have upTo : Plain ((front ++ [t]).map Token.lexeme) := plain.of_prefix ⟨_, whole.symm⟩
    rw [List.map_append] at upTo
    rw [position]
    refine .token rfl ((beginsSentence_iff (upTo.of_prefix ⟨_, rfl⟩)).mpr viable) fun more => ?_
    rw [List.map_append] at more
    exact stuck ((beginsSentence_iff upTo).mp more)
  · subst same
    have length : width (ts.map Token.lexeme) = finish := by
      rw [← length_of_placed placed, Nat.zero_add, spelling_eq, width]
    rw [length]
    exact .ends ((beginsSentence_iff plain).mpr viable) (mt (inLanguage_iff plain).mp unfinished)

end Reading

/-- Tokens whose numbers are within bounds are refused just when they are not those of a sentence, and
then for their violation of the grammar. Otherwise they are those of a sentence, all of them, and give
its terms. -/
theorem readTerms_prefix {cs : List Char} {ts : List Token} (scanned : tokens cs = .ok ts)
    (bounded : Bounded (ts.map Token.lexeme)) :
    ((∃ e, readTerms cs.length ts = .error e) ↔ ¬ InLanguage (ts.map Token.lexeme)) ∧
    (∀ e, readTerms cs.length ts = .error e → Violation cs.length ts e) ∧
    ∀ terms, readTerms cs.length ts = .ok terms → ∃ s : Sentence,
      s.lexemes = ts.map Token.lexeme ∧ terms = s.summands.map Summand.term := by
  have placed : Placed cs.length 0 ts := by
    have tokenized := scan_tokenized 0 cs
    rw [← tokens, scanned] at tokenized
    cases tokenized with
    | all read placed => rwa [Nat.zero_add] at placed
  have violation : ∀ e, readTerms cs.length ts = .error e → Violation cs.length ts e := by
    intro e failed
    rcases readTerms_refused_or bounded with ⟨flaw, position, refused⟩ | ⟨s, same, read⟩
    · rw [refused] at failed
      cases failed
      exact violation_of_refused placed bounded refused
    · rw [read] at failed
      cases failed
  refine ⟨⟨?_, fun none => ?_⟩, violation, ?_⟩
  · rintro ⟨e, failed⟩
    exact (violation e failed).not_inLanguage
  · rcases readTerms_refused_or bounded with ⟨flaw, position, refused⟩ | ⟨s, same, -⟩
    · exact ⟨_, refused⟩
    · exact absurd ⟨s, same⟩ none
  · intro terms read
    rcases readTerms_refused_or bounded with refused | ⟨s, same, whole⟩
    · exact absurd read refused.ne_ok
    · rw [whole] at read
      cases read
      exact ⟨s, same, rfl⟩

/-- An exponent with a fraction is the first token that no sentence has in its place, although all
numbers are within bounds. -/
theorem readTerms_prefix_fraction : ∃ ts, tokens "x^2-x^2.5".toList = .ok ts ∧
    Bounded (ts.map Token.lexeme) ∧ ¬ InLanguage (ts.map Token.lexeme) ∧
    Violation 9 ts (.invalid (.expected .exponent (some "2.5".toList)) 6) := by
  let two : Number := ⟨.ofNat 2, none⟩
  let half : Number := ⟨.ofNat 2, some (.ofNat 5)⟩
  let ts : List Token := [⟨.unknown, 0⟩, ⟨.caret, 1⟩, ⟨.numeral two.numeral, 2⟩, ⟨.sign true, 3⟩,
    ⟨.unknown, 4⟩, ⟨.caret, 5⟩, ⟨.numeral half.numeral, 6⟩]
  have scanned : tokens "x^2-x^2.5".toList = .ok ts := by decide +kernel
  have bounded : Bounded (ts.map Token.lexeme) := by
    constructor
    · intro n member
      have numbers : n = two.numeral ∨ n = half.numeral := by simpa [ts] using member
      rcases numbers with rfl | rfl <;> exact ⟨_, rfl, by decide +kernel⟩
    · intro before after d same
      have place : before = [.unknown] := by
        rcases before with _ | ⟨_, _ | ⟨_, _ | ⟨_, _ | ⟨_, _ | ⟨_, _ | ⟨_, _ | ⟨_, _⟩⟩⟩⟩⟩⟩⟩ <;>
          simp_all [ts, half, Number.numeral]
      have digits : d.chars = two.numeral.whole := by
        simp_all [ts]
      rw [Digits.value, digits]
      decide +kernel
  have failed : (readTerms 9 ts).map (fun _ => ()) =
      .error (.invalid (.expected .exponent (some "2.5".toList)) 6) := by decide +kernel
  obtain ⟨fails, violates, -⟩ := readTerms_prefix scanned bounded
  cases read : readTerms 9 ts with
  | ok terms =>
    rw [read] at failed
    cases failed
  | error e =>
    rw [read] at failed
    cases failed
    exact ⟨ts, scanned, bounded, fails.mp ⟨_, read⟩, violates _ read⟩

end RootFinder.Expression
