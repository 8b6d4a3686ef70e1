import Mathlib
import RootFinder.Proofs.Expression.Reading

/-! The parser is the grammar: a text is parsed exactly when it is that of a sentence whose
summands are admissible, and the coefficients are the ones that sentence stands for. -/
namespace RootFinder.Expression

namespace Body

theorem text_caretLexemes (exponent : Option Digits) :
    (caretLexemes exponent).flatMap Lexeme.text = caretText exponent := by
  cases exponent with
  | none => rfl
  | some digits => exact congrArg ('^' :: ·) (List.append_nil digits.chars)

theorem text_lexemes (body : Body) : body.lexemes.flatMap Lexeme.text = body.text := by
  rcases body with n | ⟨_ | n, exponent⟩
  · exact (List.append_nil _).trans n.text_numeral
  · exact congrArg ('x' :: ·) (text_caretLexemes exponent)
  · simp only [lexemes, List.flatMap_cons, text_caretLexemes]
    rw [Lexeme.text, n.text_numeral]
    rfl

end Body

theorem text_lexemes_more (more : List Summand) :
    (more.flatMap Summand.lexemes).flatMap Lexeme.text = more.flatMap Summand.text := by
  induction more with
  | nil => rfl
  | cons t more ih =>
    rw [List.flatMap_cons, List.flatMap_append, ih, List.flatMap_cons, Summand.lexemes,
      List.flatMap_cons, Body.text_lexemes]
    rfl

namespace Sentence

theorem text_lexemes (s : Sentence) : s.lexemes.flatMap Lexeme.text = s.text := by
  have sign : (s.sign.map Lexeme.sign).toList.flatMap Lexeme.text = signText s.sign := by
    cases s.sign <;> rfl
  rw [lexemes, List.flatMap_append, List.flatMap_append, sign, Body.text_lexemes,
    text_lexemes_more, text]

theorem text_ne_nil (s : Sentence) : s.text ≠ [] := by
  obtain ⟨sign, body, more⟩ := s
  cases sign with
  | some negative => exact List.cons_ne_nil _ _
  | none =>
    rcases body with n | ⟨_ | n, exponent⟩
    · simp [text, Body.text, Number.text, signText, n.whole.begun]
    · exact List.cons_ne_nil _ _
    · simp [text, Body.text, signText]

/-- The text of a sentence gives its terms, unless a summand is not admissible. -/
theorem terms_gives (s : Sentence) : GivesTerms (terms s.text) s.summands := by
  obtain ⟨ts, scanned, same⟩ := s.scans 0
  rw [terms, tokens, scanned]
  exact readTerms_gives s.text.length s same

end Sentence

/-- A text of plain digits is that of a sentence, unless it is refused. -/
theorem terms_finds {cs : List Char} (plain : PlainDigits cs) :
    Refused (terms cs) ∨ ∃ s : Sentence, s.text = cs := by
  rcases scan_scanned 0 plain with ⟨flaw, position, refused⟩ | ⟨ts, scanned, text, numerals⟩
  · rw [terms, tokens, refused]
    exact .inl ⟨flaw, position, rfl⟩
  · rw [terms, tokens, scanned]
    rcases readTerms_finds cs.length numerals with refused | ⟨s, same⟩
    · exact .inl refused
    · rw [same, s.text_lexemes] at text
      exact .inr ⟨s, text⟩

section Coefficients

theorem isDegree_degree (summands : List Summand) :
    IsDegree summands (degree (summands.map Summand.term)) := by
  constructor
  · intro t member unknown
    exact le_degree (t := t.term) (List.mem_map_of_mem member) unknown
  · rcases degree_attained (summands.map Summand.term) with zero | ⟨_, mapped, unknown, same⟩
    · exact .inl zero
    · obtain ⟨t, member, rfl⟩ := List.mem_map.mp mapped
      exact .inr ⟨t, member, unknown, same⟩

theorem isEntry_coefficientAt (summands : List Summand) (power : Nat) :
    IsEntry summands power (coefficientAt (summands.map Summand.term) power) := by
  rcases coefficientAt_cases (summands.map Summand.term) power with
    ⟨before, _, after, split, others, same, value⟩ | ⟨absent, zero⟩
  · obtain ⟨front, _, rfl, rfl, rest⟩ := List.map_eq_append_iff.mp split
    obtain ⟨t, back, rfl, rfl, rfl⟩ := List.map_eq_cons_iff.mp rest
    refine .inl ⟨t, ⟨front, back, rfl, ?_⟩, same, value.symm⟩
    intro u member
    rw [show t.body.exponent = power from same]
    exact others u.term (List.mem_map_of_mem member)
  · exact .inr ⟨fun t member => absent t.term (List.mem_map_of_mem member), zero⟩

/-- The coefficients of an admissible sentence. -/
theorem Sentence.describes (s : Sentence) (admissible : s.Admissible) :
    Describes s (vector (s.summands.map Summand.term)) (degree (s.summands.map Summand.term)) where
  degree := isDegree_degree s.summands
  length := length_vector _
  entry := fun power below => ⟨_, getElem?_vector below, isEntry_coefficientAt s.summands power⟩
  finite := by
    have bounded : ∀ t ∈ s.summands.map Summand.term, t.Bounded := by
      rintro _ mapped
      obtain ⟨t, member, rfl⟩ := List.mem_map.mp mapped
      exact ⟨(admissible t member).1, (admissible t member).2⟩
    exact (vector_accepted bounded).finite

end Coefficients

theorem parse_empty {cs : List Char} (none : normalize cs = []) : parse cs = .error .empty := by
  rw [parse, none]
  rfl

/-- Reading a text with a shortcut would give the same coefficients. -/
theorem shortcuts_agree {text : List Char} {v : List Float}
    (found : shortcuts.lookup text = some v) : (terms text).map vector = .ok v := by
  simp only [shortcuts, List.lookup_cons, List.lookup_nil] at found
  split at found
  · rename_i same
    obtain rfl := eq_of_beq same
    cases found
    decide +kernel
  · split at found
    · rename_i same
      obtain rfl := eq_of_beq same
      cases found
      decide +kernel
    · cases found

theorem parse_begun {cs : List Char} (begun : normalize cs ≠ []) :
    parse cs = (terms (normalize cs)).map vector := by
  unfold parse
  simp only [List.isEmpty_eq_false_iff.mpr begun, Bool.false_eq_true, if_false]
  cases found : shortcuts.lookup (normalize cs) with
  | none => rfl
  | some v => exact (shortcuts_agree found).symm

/-- The text of a sentence is parsed exactly when the sentence is admissible. -/
theorem Sentence.parse_gives {cs : List Char} (s : Sentence) (text : s.text = normalize cs) :
    (s.Admissible ∧ parse cs = .ok (vector (s.summands.map Summand.term))) ∨
      (¬ s.Admissible ∧ Refused (parse cs)) := by
  have begun : normalize cs ≠ [] := by
    rw [← text]
    exact s.text_ne_nil
  rw [parse_begun begun, ← text]
  rcases s.terms_gives with ⟨all, gives⟩ | ⟨some, refused⟩
  · rw [gives]
    exact .inl ⟨all, rfl⟩
  · exact .inr ⟨some, refused.map _⟩

theorem parse_finds {cs : List Char} (plain : PlainDigits (normalize cs))
    (begun : normalize cs ≠ []) :
    Refused (parse cs) ∨ ∃ s : Sentence, s.text = normalize cs := by
  rw [parse_begun begun]
  rcases terms_finds plain with refused | found
  · exact .inl (refused.map _)
  · exact .inr found

theorem parse_ok_iff {cs : List Char} (plain : PlainDigits (normalize cs)) :
    (∃ v, parse cs = .ok v) ↔
      normalize cs ≠ [] ∧ ∃ s : Sentence, s.text = normalize cs ∧ s.Admissible := by
  constructor
  · rintro ⟨v, parsed⟩
    have begun : normalize cs ≠ [] := by
      intro none
      rw [parse_empty none] at parsed
      cases parsed
    refine ⟨begun, ?_⟩
    rcases parse_finds plain begun with refused | ⟨s, text⟩
    · exact absurd parsed refused.ne_ok
    · rcases s.parse_gives text with ⟨admissible, -⟩ | ⟨-, refused⟩
      · exact ⟨s, text, admissible⟩
      · exact absurd parsed refused.ne_ok
  · rintro ⟨-, s, text, admissible⟩
    rcases s.parse_gives text with ⟨-, parsed⟩ | ⟨other, -⟩
    · exact ⟨_, parsed⟩
    · exact absurd admissible other

theorem parse_describes {cs : List Char} {v : List Float} {s : Sentence}
    (parsed : parse cs = .ok v) (text : s.text = normalize cs) :
    ∃ highest, Describes s v highest := by
  rcases s.parse_gives text with ⟨admissible, gives⟩ | ⟨-, refused⟩
  · rw [gives] at parsed
    cases parsed
    exact ⟨_, s.describes admissible⟩
  · exact absurd parsed refused.ne_ok

theorem parse_error {cs : List Char} {e : Error} (plain : PlainDigits (normalize cs))
    (failed : parse cs = .error e) : (normalize cs = [] ∧ e = .empty) ∨
      (normalize cs ≠ [] ∧ ∃ flaw position, e = .invalid flaw position) := by
  by_cases none : normalize cs = []
  · rw [parse_empty none] at failed
    cases failed
    exact .inl ⟨none, rfl⟩
  · have refused : Refused (parse cs) := by
      rcases parse_finds plain none with refused | ⟨s, text⟩
      · exact refused
      · rcases s.parse_gives text with ⟨-, gives⟩ | ⟨-, refused⟩
        · rw [gives] at failed
          cases failed
        · exact refused
    obtain ⟨flaw, position, same⟩ := refused
    rw [same] at failed
    cases failed
    exact .inr ⟨none, flaw, position, rfl⟩

/-- The parser accepts the admissible sentences and nothing else, gives the coefficients they stand
for, and of any other text says that it is empty or where its flaw is. -/
theorem parse_grammar (cs : List Char) (plain : PlainDigits (normalize cs)) :
    ((∃ v, parse cs = .ok v) ↔
      normalize cs ≠ [] ∧ ∃ s : Sentence, s.text = normalize cs ∧ s.Admissible) ∧
    (∀ v, parse cs = .ok v → ∀ s : Sentence, s.text = normalize cs → ∃ highest,
      Describes s v highest) ∧
    (∀ e, parse cs = .error e → (normalize cs = [] ∧ e = .empty) ∨
      (normalize cs ≠ [] ∧ ∃ flaw position, e = .invalid flaw position)) :=
  ⟨parse_ok_iff plain, fun _ parsed _ text => parse_describes parsed text,
    fun _ failed => parse_error plain failed⟩

theorem parse_grammar_line : PlainDigits (normalize "2X - 3".toList) ∧
    ∃ v, parse "2X - 3".toList = .ok v := by
  have text : normalize "2X - 3".toList = ['2', 'x', '-', '3'] := by decide +kernel
  have plain : PlainDigits (normalize "2X - 3".toList) := by
    rw [text]
    intro c member
    simp only [List.mem_cons, List.not_mem_nil, or_false] at member
    rcases member with rfl | rfl | rfl | rfl <;> decide +kernel
  let line : Sentence :=
    ⟨none, .power (some ⟨.ofNat 2, none⟩) none, [⟨true, .number ⟨.ofNat 3, none⟩⟩]⟩
  have same : line.text = normalize "2X - 3".toList := by decide +kernel
  have admissible : line.Admissible := by
    simp only [Sentence.Admissible, Summand.Admissible]
    decide +kernel
  have begun : normalize "2X - 3".toList ≠ [] := by
    rw [text]
    exact List.cons_ne_nil _ _
  exact ⟨plain, (parse_grammar _ plain).1.mpr ⟨begun, line, same, admissible⟩⟩

end RootFinder.Expression
