import Mathlib
import RootFinder.Proofs.Expression.Bounds
import RootFinder.Proofs.Expression.Values

/-! Reading tokens by the grammar. Tokens whose lexemes are those of a sentence give its terms when
every summand is admissible and are refused otherwise; tokens of plain numerals that are not
refused have the lexemes of a sentence. -/
namespace RootFinder.Expression

def Summand.term (t : Summand) : Term := ⟨t.body.exponent, t.value, t.body.hasUnknown⟩

/-- The reading gives `a` and stops before `lexemes` when that is accepted, else it is refused. -/
def Gives (result : Except Error (α × List Token)) (accepted : Prop) (a : α)
    (lexemes : List Lexeme) : Prop :=
  (accepted ∧ ∃ rest, result = .ok (a, rest) ∧ rest.map Token.lexeme = lexemes) ∨
    (¬ accepted ∧ Refused result)

variable (finish : Nat) {sign : Option Bool} {ts rest : List Token} {lexemes : List Lexeme}

/-- The body cannot go on with the lexemes that follow it. -/
def Body.Stops : Body → List Lexeme → Prop
  | .number _, rest => rest.head? ≠ some .unknown
  | .power _ exponent, rest => exponent = none → rest.head? ≠ some .caret

theorem readExponent_gives {exponent : Option Digits}
    (stops : (Body.power none exponent).Stops lexemes)
    (same : ts.map Token.lexeme = Body.caretLexemes exponent ++ lexemes) :
    Gives (readExponent finish ts) ((Body.power none exponent).exponent ≤ maxDegree)
      (Body.power none exponent).exponent lexemes := by
  cases exponent with
  | none =>
    refine .inl ⟨by decide, ts, ?_, same⟩
    obtain rfl : ts.map Token.lexeme = lexemes := same
    unfold readExponent
    split
    · exact absurd rfl (stops rfl)
    · exact absurd rfl (stops rfl)
    · rfl
  | some digits =>
    obtain ⟨⟨_, p⟩, _, rfl, rfl, follow⟩ := List.map_eq_cons_iff.mp same
    obtain ⟨⟨_, q⟩, rest, rfl, rfl, after⟩ := List.map_eq_cons_iff.mp follow
    change Gives ((exponentValue digits.chars q).map (·, rest)) (digits.value ≤ maxDegree)
      digits.value lexemes
    rw [exponentValue_digits]
    by_cases small : digits.value ≤ maxDegree
    · rw [if_pos small]
      exact .inl ⟨small, rest, rfl, after⟩
    · rw [if_neg small]
      exact .inr ⟨small, _, _, rfl⟩

/-- The value of a number under a sign is used, or the number is refused. -/
theorem coefficient_gives (n : Number) (position : Nat) (f : Float → Term) :
    Gives ((coefficient sign n.numeral position).map fun c => (f c, rest))
      (Binary64.isFinite (Binary64.read (sign.getD false) n.decimal) = true)
      (f (Binary64.read (sign.getD false) n.decimal)) (rest.map Token.lexeme) := by
  rw [coefficient_number]
  split
  · rename_i finite
    exact .inl ⟨finite, rest, rfl, rfl⟩
  · rename_i infinite
    exact .inr ⟨infinite, _, _, rfl⟩

theorem Gives.of_iff {result : Except Error (α × List Token)} {p q : Prop} {a : α}
    (h : Gives result p a lexemes) (same : q ↔ p) : Gives result q a lexemes := by
  rwa [Gives, same]

theorem readBody_gives {body : Body} (stops : body.Stops lexemes)
    (same : ts.map Token.lexeme = body.lexemes ++ lexemes) :
    Gives (readBody finish sign ts) (Summand.Admissible ⟨sign.getD false, body⟩)
      (Summand.term ⟨sign.getD false, body⟩) lexemes := by
  match body with
  | .number n =>
    obtain ⟨⟨_, p⟩, rest, rfl, rfl, rfl⟩ := List.map_eq_cons_iff.mp same
    -- no unknown follows, so the numeral is not a factor of one
    have step : readBody finish sign (⟨.numeral n.numeral, p⟩ :: rest) =
        (coefficient sign n.numeral p).map fun c => (⟨0, c, false⟩, rest) := by
      rw [readBody]
      rintro position more rfl
      exact stops rfl
    rw [step]
    refine (coefficient_gives n p fun c => ⟨0, c, false⟩).of_iff ?_
    simp only [Summand.Admissible, Body.exponent, Nat.zero_le, true_and]
    rfl
  | .power none exponent =>
    obtain ⟨⟨_, p⟩, rest, rfl, rfl, follow⟩ := List.map_eq_cons_iff.mp same
    have finite : Binary64.isFinite (Binary64.read (sign.getD false) ⟨1, 0⟩) = true := by
      rcases sign with _ | _ | _ <;> decide +kernel
    rcases readExponent_gives finish stops follow with
      ⟨small, rest, read, after⟩ | ⟨large, flaw, position, read⟩
    · refine .inl ⟨⟨small, finite⟩, rest, ?_, after⟩
      rw [readBody, read]
      simp only [Except.map, unit_eq_read]
      rfl
    · refine .inr ⟨fun admissible => large admissible.1, flaw, position, ?_⟩
      rw [readBody, read]
      rfl
  | .power (some n) exponent =>
    obtain ⟨⟨_, p⟩, _, rfl, rfl, unknown⟩ := List.map_eq_cons_iff.mp same
    obtain ⟨⟨_, q⟩, rest, rfl, rfl, follow⟩ := List.map_eq_cons_iff.mp unknown
    rcases readExponent_gives finish stops follow with
      ⟨small, rest, read, rfl⟩ | ⟨large, flaw, position, read⟩
    · rw [readBody, read]
      refine (coefficient_gives n p fun c => ⟨_, c, true⟩).of_iff ?_
      exact and_iff_right small
    · refine .inr ⟨fun admissible => large admissible.1, flaw, position, ?_⟩
      rw [readBody, read]

theorem readTerm_gives (sign : Option Bool) {body : Body} (stops : body.Stops lexemes)
    (same : ts.map Token.lexeme = (sign.map Lexeme.sign).toList ++ body.lexemes ++ lexemes) :
    Gives (readTerm finish ts) (Summand.Admissible ⟨sign.getD false, body⟩)
      (Summand.term ⟨sign.getD false, body⟩) lexemes := by
  cases sign with
  | none =>
    have step : readTerm finish ts = readBody finish none ts := by
      unfold readTerm
      split
      · match body with
        | .number n => cases same
        | .power none exponent => cases same
        | .power (some n) exponent => cases same
      · rfl
    rw [step]
    exact readBody_gives finish stops same
  | some negative =>
    obtain ⟨⟨_, p⟩, rest, rfl, rfl, follow⟩ := List.map_eq_cons_iff.mp same
    exact readBody_gives finish stops follow

theorem stops_more (body : Body) (more : List Summand) :
    body.Stops (more.flatMap Summand.lexemes) := by
  cases more with
  | nil => rcases body with n | ⟨n, _ | digits⟩ <;> simp [Body.Stops]
  | cons t more => rcases body with n | ⟨n, _ | digits⟩ <;> simp [Body.Stops, Summand.lexemes]

theorem readMore_sign (negative : Bool) (position : Nat) (ts : List Token) :
    readMore finish (⟨.sign negative, position⟩ :: ts) =
      (readTerm finish (⟨.sign negative, position⟩ :: ts)).bind fun (term, rest) =>
        (readMore finish rest).map (term :: ·) := by
  rw [readMore]
  split
  · rename_i read
    rw [read]
    rfl
  · rename_i read
    rw [read]
    rfl

def GivesTerms (result : Except Error (List Term)) (summands : List Summand) : Prop :=
  ((∀ t ∈ summands, t.Admissible) ∧ result = .ok (summands.map Summand.term)) ∨
    (¬ (∀ t ∈ summands, t.Admissible) ∧ Refused result)

theorem Gives.cons {result : Except Error (Term × List Token)} {t : Summand}
    {more : List Summand} {next : List Token → Except Error (List Term)}
    (first : Gives result t.Admissible t.term lexemes)
    (others : ∀ rest, rest.map Token.lexeme = lexemes → GivesTerms (next rest) more) :
    GivesTerms (result.bind fun (term, rest) => (next rest).map (term :: ·)) (t :: more) := by
  unfold GivesTerms
  rw [List.forall_mem_cons]
  rcases first with ⟨accepted, rest, rfl, same⟩ | ⟨declined, flaw, position, rfl⟩
  · rcases others rest same with ⟨all, read⟩ | ⟨some, refused⟩
    · refine .inl ⟨⟨accepted, all⟩, ?_⟩
      simp only [Except.bind, read]
      rfl
    · exact .inr ⟨fun both => some both.2, refused.map _⟩
  · exact .inr ⟨fun both => declined both.1, flaw, position, rfl⟩

theorem readMore_gives (more : List Summand)
    (same : ts.map Token.lexeme = more.flatMap Summand.lexemes) :
    GivesTerms (readMore finish ts) more := by
  induction more generalizing ts with
  | nil =>
    obtain rfl : ts = [] := List.map_eq_nil_iff.mp same
    refine .inl ⟨by simp, ?_⟩
    rw [readMore]
    rfl
  | cons t more ih =>
    have shape := same
    obtain ⟨⟨_, p⟩, rest, rfl, rfl, follow⟩ := List.map_eq_cons_iff.mp shape
    rw [readMore_sign]
    have first := readTerm_gives finish (some t.negative) (stops_more t.body more) same
    exact first.cons fun rest after => ih after

/-- The tokens of a sentence give its terms exactly when its summands are admissible. -/
theorem readTerms_gives (s : Sentence) (same : ts.map Token.lexeme = s.lexemes) :
    GivesTerms (readTerms finish ts) s.summands := by
  have first := readTerm_gives finish s.sign (stops_more s.body s.more) same
  have both := first.cons fun rest after => readMore_gives finish s.more after
  have step : readTerms finish ts = (readTerm finish ts).bind fun (term, rest) =>
      (readMore finish rest).map (term :: ·) := by
    unfold readTerms
    cases readTerm finish ts <;> rfl
  rw [step]
  exact both

theorem Plain.of_append {a b c : List Lexeme} (h : Plain c) (same : c = a ++ b) : Plain b := by
  intro n member
  apply h
  rw [same]
  exact List.mem_append_right _ member

theorem refuse_refused {ts : List Token} {wanted : Wanted} :
    Refused (.error (refuse finish wanted ts) : Except Error α) := by
  cases ts <;> exact ⟨_, _, rfl⟩

/-- After the unknown comes an exponent or none, unless the tokens are refused. -/
theorem readExponent_finds (plain : Plain (ts.map Token.lexeme)) :
    Refused (readExponent finish ts) ∨ ∃ exponent lexemes,
      ts.map Token.lexeme = Body.caretLexemes exponent ++ lexemes ∧
        (exponent = none → lexemes.head? ≠ some .caret) := by
  unfold readExponent
  split
  · rename_i p digits q rest
    obtain ⟨⟨whole, _ | _⟩, same⟩ := plain ⟨digits, none⟩ (by simp)
    · obtain rfl : whole.chars = digits := (Numeral.mk.inj same).1
      exact .inr ⟨some whole, rest.map Token.lexeme, rfl, by rintro ⟨⟩⟩
    · cases same
  · exact .inl (refuse_refused finish)
  · rename_i noCaret
    refine .inr ⟨none, ts.map Token.lexeme, rfl, ?_⟩
    rintro - head
    obtain ⟨⟨_, p⟩, rest, rfl, rfl, -⟩ :=
      List.map_eq_cons_iff.mp (List.head?_eq_some_iff.mp head).choose_spec
    exact noCaret p rest rfl

theorem readBody_finds (plain : Plain (ts.map Token.lexeme)) :
    Refused (readBody finish sign ts) ∨ ∃ body lexemes,
      ts.map Token.lexeme = Body.lexemes body ++ lexemes ∧ body.Stops lexemes := by
  unfold readBody
  split
  · rename_i n p q rest
    obtain ⟨m, rfl⟩ := plain n (by simp)
    have plain : Plain (rest.map Token.lexeme) :=
      plain.of_append (a := [.numeral m.numeral, .unknown]) rfl
    rcases readExponent_finds finish plain with
      ⟨flaw, position, read⟩ | ⟨exponent, lexemes, same, stops⟩
    · rw [read]
      exact .inl ⟨flaw, position, rfl⟩
    · refine .inr ⟨.power (some m) exponent, lexemes, ?_, stops⟩
      rw [List.map_cons, List.map_cons, same]
      rfl
  · rename_i n p rest noUnknown
    obtain ⟨m, rfl⟩ := plain n (by simp)
    refine .inr ⟨.number m, rest.map Token.lexeme, rfl, ?_⟩
    intro head
    obtain ⟨⟨_, p⟩, rest, rfl, rfl, -⟩ :=
      List.map_eq_cons_iff.mp (List.head?_eq_some_iff.mp head).choose_spec
    exact noUnknown p rest rfl
  · rename_i p rest
    have plain : Plain (rest.map Token.lexeme) := plain.of_append (a := [.unknown]) rfl
    rcases readExponent_finds finish plain with refused | ⟨exponent, lexemes, same, stops⟩
    · exact .inl (refused.map _)
    · refine .inr ⟨.power none exponent, lexemes, ?_, stops⟩
      rw [List.map_cons, same]
      rfl
  · exact .inl (refuse_refused finish)

theorem readTerm_finds (plain : Plain (ts.map Token.lexeme)) :
    Refused (readTerm finish ts) ∨ ∃ sign body lexemes,
      ts.map Token.lexeme = (Option.map Lexeme.sign sign).toList ++ Body.lexemes body ++ lexemes ∧
        body.Stops lexemes := by
  unfold readTerm
  split
  · rename_i negative p rest
    have plain : Plain (rest.map Token.lexeme) := plain.of_append (a := [.sign negative]) rfl
    rcases readBody_finds finish plain with refused | ⟨body, lexemes, same, stops⟩
    · exact .inl refused
    · refine .inr ⟨some negative, body, lexemes, ?_, stops⟩
      rw [List.map_cons, same]
      rfl
  · rcases readBody_finds finish plain with refused | ⟨body, lexemes, same, stops⟩
    · exact .inl refused
    · exact .inr ⟨none, body, lexemes, same, stops⟩

/-- What is read off the head of plain tokens is a summand, and the rest is plain. -/
theorem readTerm_reads (plain : Plain (ts.map Token.lexeme)) :
    Refused (readTerm finish ts) ∨ ∃ sign body rest,
      readTerm finish ts = .ok (Summand.term ⟨Option.getD sign false, body⟩, rest) ∧
        ts.map Token.lexeme = (Option.map Lexeme.sign sign).toList ++ Body.lexemes body ++
          rest.map Token.lexeme ∧ Plain (rest.map Token.lexeme) := by
  rcases readTerm_finds finish plain with refused | ⟨sign, body, lexemes, same, stops⟩
  · exact .inl refused
  · rcases readTerm_gives finish sign stops same with ⟨-, rest, read, rfl⟩ | ⟨-, refused⟩
    · exact .inr ⟨sign, body, rest, read, same, plain.of_append same⟩
    · exact .inl refused

theorem readMore_finds (plain : Plain (ts.map Token.lexeme)) :
    Refused (readMore finish ts) ∨ ∃ more : List Summand,
      ts.map Token.lexeme = more.flatMap Summand.lexemes := by
  fun_induction readMore finish ts with
  | case1 => exact .inr ⟨[], rfl⟩
  | case2 negative position rest e failed =>
    rcases readTerm_reads finish plain with ⟨flaw, position, refused⟩ | ⟨_, _, _, read, -⟩
    · rw [refused] at failed
      cases failed
      exact .inl ⟨flaw, position, rfl⟩
    · rw [read] at failed
      cases failed
  | case3 negative position ts term rest found ih =>
    rcases readTerm_reads finish plain with refused | ⟨sign, body, others, read, same, plain⟩
    · exact absurd found refused.ne_ok
    · rw [read] at found
      cases found
      rcases ih plain with refused | ⟨more, lexemes⟩
      · exact .inl (refused.map _)
      · obtain ⟨negative, rfl⟩ : ∃ negative : Bool, sign = some negative := by
          cases sign with
          | none => rcases body with n | ⟨_ | n, exponent⟩ <;> cases same
          | some negative => exact ⟨negative, rfl⟩
        refine .inr ⟨⟨negative, body⟩ :: more, ?_⟩
        rw [same, lexemes]
        rfl
  | case4 ts => exact .inl (refuse_refused finish)

/-- Plain tokens are those of a sentence, unless they are refused. -/
theorem readTerms_finds (plain : Plain (ts.map Token.lexeme)) :
    Refused (readTerms finish ts) ∨ ∃ s : Sentence, ts.map Token.lexeme = s.lexemes := by
  unfold readTerms
  rcases readTerm_reads finish plain with
    ⟨flaw, position, refused⟩ | ⟨sign, body, rest, read, same, plain⟩
  · rw [refused]
    exact .inl ⟨flaw, position, rfl⟩
  · rw [read]
    rcases readMore_finds finish plain with refused | ⟨more, lexemes⟩
    · exact .inl (refused.map _)
    · refine .inr ⟨⟨sign, body, more⟩, ?_⟩
      rw [same, lexemes]
      rfl

end RootFinder.Expression
