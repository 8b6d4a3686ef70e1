import Mathlib.Data.List.Basic
import RootFinder.Proofs.Expression.Parsing

/-! Digits without a place value. Reading ends with coefficients, with the emptiness of the text, or
with a flaw and its position; the only other ending quotes a digit of the text that the number
reader does not know. -/
namespace RootFinder.Expression

open Text (isDigit decimalValue?)

/-- A superscript or circled figure: a digit to the scanner, but without a place value. -/
def Valueless (c : Char) : Prop := isDigit c = true ∧ decimalValue? c = none

/-- What a failure to read says about the text: there is a flaw, or the quoted numeral has a
character of the text without a place value. -/
def Error.Blames (cs : List Char) : Error → Prop
  | .invalid _ _ => True
  | .noDecimal numeral => ∃ c ∈ numeral, c ∈ cs ∧ Valueless c
  | .noInteger digits => ∃ c ∈ digits, c ∈ cs ∧ Valueless c
  | .empty | .noText _ => False

/-- The digits of every numeral among the tokens are digits of the text. -/
def Drawn (cs : List Char) (ts : List Token) : Prop :=
  ∀ t ∈ ts, ∀ n, t.lexeme = .numeral n → ∀ c ∈ n.whole ++ n.fraction.getD [],
    isDigit c = true ∧ c ∈ cs

theorem Drawn.tail {cs : List Char} {t : Token} {ts : List Token} (drawn : Drawn cs (t :: ts)) :
    Drawn cs ts := fun u member => drawn u (List.mem_cons_of_mem _ member)

theorem Drawn.head {cs : List Char} {n : Numeral} {position : Nat} {ts : List Token}
    (drawn : Drawn cs (⟨.numeral n, position⟩ :: ts)) :
    ∀ c ∈ n.whole ++ n.fraction.getD [], isDigit c = true ∧ c ∈ cs :=
  drawn _ List.mem_cons_self n rfl

/-- A numeral split off a text consists of digits of the text. -/
theorem split_drawn (cs : List Char) :
    ∀ c ∈ (Numeral.split cs).1.whole ++ (Numeral.split cs).1.fraction.getD [],
      isDigit c = true ∧ c ∈ cs := by
  have run : ∀ c ∈ cs.takeWhile isDigit, isDigit c = true ∧ c ∈ cs := fun c member =>
    ⟨List.mem_takeWhile_imp member, List.takeWhile_subset _ member⟩
  unfold Numeral.split
  dsimp only
  split
  · rename_i d rest after
    split
    · rename_i digit
      have subset : ∀ c ∈ d :: rest, c ∈ cs := by
        intro c member
        apply List.dropWhile_subset isDigit
        rw [after]
        exact List.mem_cons_of_mem _ member
      intro c member
      rcases List.mem_append.mp member with whole | places
      · exact run c whole
      · rcases List.mem_cons.mp places with rfl | more
        · exact ⟨digit, subset c List.mem_cons_self⟩
        · exact ⟨List.mem_takeWhile_imp more,
            subset c (List.mem_cons_of_mem _ (List.takeWhile_subset _ more))⟩
    · simpa using run
  · simpa using run

/-- What follows a position in the text is drawn from the text. -/
theorem Drawn.of_append {a b cs : List Char} {ts : List Token} (drawn : Drawn b ts)
    (text : a ++ b = cs) : Drawn cs ts := by
  intro t member n same c digit
  obtain ⟨isDigit, inText⟩ := drawn t member n same c digit
  refine ⟨isDigit, ?_⟩
  rw [← text]
  exact List.mem_append_right _ inText

/-- The outcome of scanning: a flaw, or tokens drawn from the text. -/
def ScansDrawn (cs : List Char) (result : Except Error (List Token)) : Prop :=
  Refused result ∨ ∃ ts, result = .ok ts ∧ Drawn cs ts

theorem ScansDrawn.cons {cs rest : List Char} {result : Except Error (List Token)} {t : Token}
    (text : t.lexeme.text ++ rest = cs)
    (numeral : ∀ n, t.lexeme = .numeral n → ∀ c ∈ n.whole ++ n.fraction.getD [],
      isDigit c = true ∧ c ∈ cs)
    (h : ScansDrawn rest result) : ScansDrawn cs (result.map (t :: ·)) := by
  rcases h with refused | ⟨ts, rfl, drawn⟩
  · exact .inl (refused.map _)
  · refine .inr ⟨t :: ts, rfl, ?_⟩
    intro u member
    rcases List.mem_cons.mp member with rfl | later
    · exact numeral
    · exact drawn.of_append text u later

theorem scan_drawn (position : Nat) (cs : List Char) : ScansDrawn cs (scan position cs) := by
  fun_induction scan position cs with
  | case1 => exact .inr ⟨[], rfl, by simp [Drawn]⟩
  | case2 position c rest sign ih =>
    refine ScansDrawn.cons ?_ (by rintro n ⟨⟩) ih
    rcases sign with rfl | rfl <;> rfl
  | case3 position c rest _ digit ih =>
    refine ScansDrawn.cons (Numeral.text_split (c :: rest)) ?_ ih
    rintro n ⟨⟩
    exact split_drawn (c :: rest)
  | case4 position rest _ _ ih => exact ScansDrawn.cons rfl (by rintro n ⟨⟩) ih
  | case5 position rest _ _ _ ih => exact ScansDrawn.cons rfl (by rintro n ⟨⟩) ih
  | case6 position c => exact .inl ⟨.unexpected c, position, rfl⟩

section Reading

variable {cs : List Char} {finish : Nat} {sign : Option Bool} {ts : List Token}

theorem mapM_decimalValue?_eq_none {digits : List Char} (h : digits.mapM decimalValue? = none) :
    ∃ c ∈ digits, decimalValue? c = none := by
  by_contra all
  have values : ∀ c ∈ digits, (decimalValue? c).isSome := by
    intro c member
    apply Option.isSome_iff_ne_none.mpr
    intro valueless
    exact all ⟨c, member, valueless⟩
  clear all
  induction digits with
  | nil => cases h
  | cons c digits ih =>
    obtain ⟨first, others⟩ := List.forall_mem_cons.mp values
    obtain ⟨n, value⟩ := Option.isSome_iff_exists.mp first
    cases more : digits.mapM decimalValue? with
    | none => exact ih more others
    | some ns =>
      rw [List.mapM_cons, value, more] at h
      cases h

theorem Numeral.mem_text {n : Numeral} {c : Char} (member : c ∈ n.whole ++ n.fraction.getD []) :
    c ∈ n.text := by
  unfold Numeral.text
  cases same : n.fraction with
  | none => simpa [same] using member
  | some digits =>
    rw [same, Option.getD_some] at member
    rcases List.mem_append.mp member with whole | places
    · exact List.mem_append_left _ whole
    · exact List.mem_append_right _ (List.mem_cons_of_mem _ places)

/-- The failure blames the text, or what was read leaves tokens drawn from the text. -/
def Reads {α : Type} (cs : List Char) (result : Except Error (α × List Token)) : Prop :=
  (∃ e, result = .error e ∧ e.Blames cs) ∨ ∃ a rest, result = .ok (a, rest) ∧ Drawn cs rest

theorem refuse_blames (wanted : Wanted) : (refuse finish wanted ts).Blames cs := by
  cases ts <;> trivial

theorem coefficient_reads {α : Type} {n : Numeral} {position : Nat} (f : Float → α)
    (digits : ∀ c ∈ n.whole ++ n.fraction.getD [], isDigit c = true ∧ c ∈ cs)
    (drawn : Drawn cs ts) :
    Reads cs ((coefficient sign n position).map fun c => (f c, ts)) := by
  unfold coefficient
  split
  · rename_i valueless
    obtain ⟨c, member, none⟩ := mapM_decimalValue?_eq_none (Option.map_eq_none_iff.mp valueless)
    obtain ⟨digit, inText⟩ := digits c member
    have quoted := List.mem_append_right (signText sign) (Numeral.mem_text member)
    exact .inl ⟨_, rfl, c, quoted, inText, digit, none⟩
  · split
    · exact .inr ⟨_, ts, rfl, drawn⟩
    · exact .inl ⟨_, rfl, trivial⟩

theorem exponentValue_blames {digits : List Char} {position : Nat} {e : Error}
    (drawn : ∀ c ∈ digits, isDigit c = true ∧ c ∈ cs)
    (failed : exponentValue digits position = .error e) : e.Blames cs := by
  have zero : decimalValue? '0' = some 0 := by decide +kernel
  have chars : ∀ c ∈ if (digits.dropWhile (· = '0')).isEmpty then ['0'] else
      digits.dropWhile (· = '0'), c = '0' ∨ isDigit c = true ∧ c ∈ cs := by
    intro c member
    split at member
    · exact .inl (List.mem_singleton.mp member)
    · exact .inr (drawn c (List.dropWhile_subset _ member))
  unfold exponentValue at failed
  dsimp only at failed
  generalize (if (digits.dropWhile (· = '0')).isEmpty then ['0'] else
    digits.dropWhile (· = '0')) = significant at failed chars
  split at failed
  · cases failed
    trivial
  · split at failed
    · rename_i valueless
      cases failed
      obtain ⟨c, member, none⟩ := mapM_decimalValue?_eq_none valueless
      rcases chars c member with rfl | ⟨digit, inText⟩
      · rw [zero] at none
        cases none
      · exact ⟨c, member, inText, digit, none⟩
    · split at failed
      · cases failed
        trivial
      · cases failed

theorem readExponent_reads (drawn : Drawn cs ts) : Reads cs (readExponent finish ts) := by
  unfold readExponent
  split
  · rename_i p digits q rest
    have chars : ∀ c ∈ digits, isDigit c = true ∧ c ∈ cs := by
      simpa using drawn.tail.head
    cases read : exponentValue digits q with
    | error e => exact .inl ⟨e, rfl, exponentValue_blames chars read⟩
    | ok n => exact .inr ⟨n, rest, rfl, drawn.tail.tail⟩
  · exact .inl ⟨_, rfl, refuse_blames _⟩
  · exact .inr ⟨1, ts, rfl, drawn⟩

theorem readBody_reads (drawn : Drawn cs ts) : Reads cs (readBody finish sign ts) := by
  unfold readBody
  split
  · rename_i n p q rest
    have power : Reads cs (readExponent finish rest) := readExponent_reads drawn.tail.tail
    rcases power with ⟨e, read, blames⟩ | ⟨exponent, others, read, drawnOthers⟩
    · rw [read]
      exact .inl ⟨e, rfl, blames⟩
    · rw [read]
      exact coefficient_reads _ drawn.head drawnOthers
  · exact coefficient_reads _ drawn.head drawn.tail
  · rename_i p rest
    have power : Reads cs (readExponent finish rest) := readExponent_reads drawn.tail
    rcases power with ⟨e, read, blames⟩ | ⟨exponent, others, read, drawnOthers⟩
    · rw [read]
      exact .inl ⟨e, rfl, blames⟩
    · rw [read]
      exact .inr ⟨_, others, rfl, drawnOthers⟩
  · exact .inl ⟨_, rfl, refuse_blames _⟩

theorem readTerm_drawn (drawn : Drawn cs ts) : Reads cs (readTerm finish ts) := by
  unfold readTerm
  split
  · exact readBody_reads drawn.tail
  · exact readBody_reads drawn

theorem readMore_blames {e : Error} (drawn : Drawn cs ts)
    (failed : readMore finish ts = .error e) : e.Blames cs := by
  fun_induction readMore finish ts generalizing e with
  | case1 => cases failed
  | case2 negative position ts e' read =>
    cases failed
    have first : Reads cs (readTerm finish (⟨.sign negative, position⟩ :: ts)) :=
      readTerm_drawn drawn
    rcases first with ⟨_, same, blames⟩ | ⟨_, _, same, -⟩
    · rw [read] at same
      cases same
      exact blames
    · rw [read] at same
      cases same
  | case3 negative position ts term rest read ih =>
    have first : Reads cs (readTerm finish (⟨.sign negative, position⟩ :: ts)) :=
      readTerm_drawn drawn
    rcases first with ⟨_, same, -⟩ | ⟨_, _, same, drawnRest⟩
    · rw [read] at same
      cases same
    · rw [read] at same
      cases same
      cases more : readMore finish rest with
      | error e' =>
        rw [more] at failed
        cases failed
        exact ih drawnRest more
      | ok others =>
        rw [more] at failed
        cases failed
  | case4 ts =>
    cases failed
    exact refuse_blames _

theorem readTerms_blames {e : Error} (drawn : Drawn cs ts)
    (failed : readTerms finish ts = .error e) : e.Blames cs := by
  unfold readTerms at failed
  have first : Reads cs (readTerm finish ts) := readTerm_drawn drawn
  rcases first with ⟨_, same, blames⟩ | ⟨_, rest, same, drawnRest⟩
  · rw [same] at failed
    cases failed
    exact blames
  · rw [same] at failed
    dsimp only at failed
    cases more : readMore finish rest with
    | error e' =>
      rw [more] at failed
      cases failed
      exact readMore_blames drawnRest more
    | ok others =>
      rw [more] at failed
      cases failed

end Reading

theorem terms_blames {cs : List Char} {e : Error} (failed : terms cs = .error e) :
    e.Blames cs := by
  rcases scan_drawn 0 cs with ⟨flaw, position, refused⟩ | ⟨ts, scanned, drawn⟩
  · rw [terms, tokens, refused] at failed
    cases failed
    trivial
  · rw [terms, tokens, scanned] at failed
    exact readTerms_blames drawn failed

/-- A text that is not parsed is empty, has a flaw, or has a digit without a place value. -/
theorem parse_blames {cs : List Char} {e : Error} (failed : parse cs = .error e) :
    (normalize cs = [] ∧ e = .empty) ∨ (normalize cs ≠ [] ∧ e.Blames (normalize cs)) := by
  by_cases none : normalize cs = []
  · rw [parse_empty none] at failed
    cases failed
    exact .inl ⟨none, rfl⟩
  · rw [parse_begun none] at failed
    cases read : terms (normalize cs) with
    | error e' =>
      rw [read] at failed
      cases failed
      exact .inr ⟨none, terms_blames read⟩
    | ok found =>
      rw [read] at failed
      cases failed

end RootFinder.Expression
