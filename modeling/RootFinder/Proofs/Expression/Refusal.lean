import Mathlib
import RootFinder.Proofs.Expression.Faults
import RootFinder.Proofs.Expression.Parsing

/-! What the reader of tokens refuses. From each state it stops at the first thing that is wrong
with the lexemes, except that the coefficient of a term is judged after its exponent. -/
namespace RootFinder.Expression

/-- What is wrong with lexemes that are read from a state, and after which of them. -/
inductive Wrong : State → List Lexeme → List Lexeme → Flaw → Prop
  | misplaced {s : State} {l : Lexeme} {ls : List Lexeme} (stuck : s.next l = none) :
      Wrong s (l :: ls) [] (.expected s.wanted (some l.text))
  | exponent {digits : List Char} {ls : List Lexeme} (high : TooHigh digits) :
      Wrong .caret (.numeral ⟨digits, none⟩ :: ls) [] .exponentTooLarge
  | coefficient {s t : State} {n : Numeral} {ls : List Lexeme} (apart : s ≠ .caret)
      (step : s.next (.numeral n) = some t) (large : TooLarge n) :
      Wrong s (.numeral n :: ls) [] .coefficientTooLarge
  | ends {s : State} (unfinished : s.complete = false) :
      Wrong s [] [] (.expected s.wanted none)
  | later {s t : State} {l : Lexeme} {ls before : List Lexeme} {flaw : Flaw}
      (step : s.next l = some t) (more : Wrong t ls before flaw) :
      Wrong s (l :: ls) (l :: before) flaw

/-- The exponent that comes after the lexemes `exponent` belongs to the term whose coefficient comes
after the lexemes `coefficient`. -/
def SameTerm (coefficient exponent : List Lexeme) : Prop :=
  ∃ n, exponent = coefficient ++ [.numeral n, .unknown, .caret]

/-- The fault that is reported of lexemes read from a state. -/
structure Chosen (s : State) (ls before : List Lexeme) (flaw : Flaw) : Prop where
  wrong : Wrong s ls before flaw
  earlier : ∀ other flaw', Wrong s ls other flaw' → other.length < before.length →
    SameTerm other before
  exponent : flaw = .coefficientTooLarge → ∀ other flaw', Wrong s ls other flaw' →
    ¬ SameTerm before other

/-- Nothing is wrong with a lexeme that is read in a state. -/
def Right (s : State) (l : Lexeme) : Prop := ∀ ls flaw, ¬ Wrong s (l :: ls) [] flaw

/-- Reading these lexemes leads from one state to another, and nothing is wrong with them. -/
inductive Passes : State → List Lexeme → State → Prop
  | nil (s : State) : Passes s [] s
  | cons {s t u : State} {l : Lexeme} {ls : List Lexeme} (step : s.next l = some t)
      (right : Right s l) (more : Passes t ls u) : Passes s (l :: ls) u

section Steps

variable {s t u : State} {l : Lexeme} {ls ks before : List Lexeme} {flaw : Flaw}

theorem Right.of_next (step : s.next l = some t) (numeral : ∀ n, l ≠ .numeral n) : Right s l := by
  intro ls flaw wrong
  cases wrong with
  | misplaced stuck =>
    rw [stuck] at step
    cases step
  | exponent high => exact numeral _ rfl
  | coefficient apart step large => exact numeral _ rfl

theorem Right.coefficient {n : Numeral} (apart : s ≠ .caret) (step : s.next (.numeral n) = some t)
    (small : ¬ TooLarge n) : Right s (.numeral n) := by
  intro ls flaw wrong
  cases wrong with
  | misplaced stuck =>
    rw [stuck] at step
    cases step
  | exponent high => exact apart rfl
  | coefficient apart step large => exact small large

theorem Right.exponent {digits : List Char} (small : ¬ TooHigh digits) :
    Right .caret (.numeral ⟨digits, none⟩) := by
  intro ls flaw wrong
  cases wrong with
  | misplaced stuck => cases stuck
  | exponent high => exact small high
  | coefficient apart step large => exact apart rfl

theorem Passes.append (first : Passes s ls t) (last : Passes t ks u) : Passes s (ls ++ ks) u := by
  induction first with
  | nil => exact last
  | cons step right more ih => exact .cons step right (ih last)

/-- What is wrong comes after what was read without fault. -/
theorem Passes.wrong (h : Passes s ls t) (wrong : Wrong s (ls ++ ks) before flaw) :
    ∃ others, before = ls ++ others ∧ Wrong t ks others flaw := by
  induction h generalizing before with
  | nil => exact ⟨before, rfl, wrong⟩
  | cons step right more ih =>
    by_cases here : before = []
    · subst here
      exact absurd wrong (right _ _)
    · cases wrong with
      | later step' wrong =>
        rw [step] at step'
        cases step'
        obtain ⟨others, rfl, after⟩ := ih wrong
        exact ⟨others, rfl, after⟩
      | _ => exact absurd rfl here

theorem Wrong.append (h : Wrong t ks before flaw) (path : s.run ls = some t) :
    Wrong s (ls ++ ks) (ls ++ before) flaw := by
  induction ls generalizing s with
  | nil =>
    cases path
    exact h
  | cons l ls ih =>
    rw [State.run_cons, Option.bind_eq_some_iff] at path
    obtain ⟨u, step, path⟩ := path
    exact .later step (ih path)

theorem Passes.run (h : Passes s ls t) : s.run ls = some t := by
  induction h with
  | nil => rfl
  | cons step right more ih => rw [State.run_cons, step, Option.bind_some, ih]

theorem Passes.chosen (h : Passes s ls t) (chosen : Chosen t ks before flaw) :
    Chosen s (ls ++ ks) (ls ++ before) flaw where
  wrong := chosen.wrong.append h.run
  earlier := by
    intro other flaw' wrong shorter
    obtain ⟨others, rfl, after⟩ := h.wrong wrong
    obtain ⟨n, rfl⟩ := chosen.earlier others flaw' after (by simpa using shorter)
    exact ⟨n, (List.append_assoc _ _ _).symm⟩
  exponent := by
    intro large other flaw' wrong
    obtain ⟨others, rfl, after⟩ := h.wrong wrong
    rintro ⟨n, same⟩
    rw [List.append_assoc, List.append_cancel_left_eq] at same
    exact chosen.exponent large others flaw' after ⟨n, same⟩

/-- One thing at most is wrong at a place. -/
theorem Wrong.unique {flaw' : Flaw} (h : Wrong s ls [] flaw)
    (h' : Wrong s ls [] flaw') : flaw = flaw' := by
  cases h with
  | misplaced stuck =>
    cases h' with
    | misplaced => rfl
    | exponent => cases stuck
    | coefficient apart step =>
      rw [stuck] at step
      cases step
  | exponent high =>
    cases h' with
    | misplaced stuck => cases stuck
    | exponent => rfl
    | coefficient apart => exact absurd rfl apart
  | coefficient apart step large =>
    cases h' with
    | misplaced stuck =>
      rw [stuck] at step
      cases step
    | exponent => exact absurd rfl apart
    | coefficient => rfl
  | ends =>
    cases h'
    rfl

end Steps

section Reading

/-- What follows is a sign, or else cannot come next. -/
def State.Stops (s : State) (ls : List Lexeme) : Prop :=
  ∀ l ∈ ls.head?, (∀ negative, l ≠ .sign negative) → s.next l = none

/-- How reading tokens from a state comes out: it goes through to where the next term may begin, is
refused after some lexemes, or quotes a digit without a place value. -/
inductive Outcome {α : Type} (s : State) (finish start : Nat) (ts : List Token)
    (refusal : List Lexeme → Flaw → Prop) : Except Error (α × List Token) → Prop
  | through {a : α} {used : List Lexeme} {rest : List Token} {t : State}
      (same : ts.map Token.lexeme = used ++ rest.map Token.lexeme) (passes : Passes s used t)
      (complete : t.complete = true) (stops : t.Stops (rest.map Token.lexeme))
      (placed : Placed finish (start + width used) rest) :
      Outcome s finish start ts refusal (.ok (a, rest))
  | refused {before : List Lexeme} {flaw : Flaw} (refused : refusal before flaw) :
      Outcome s finish start ts refusal (.error (.invalid flaw (start + width before)))
  | quoted {e : Error} (other : ∀ flaw position, e ≠ .invalid flaw position) :
      Outcome s finish start ts refusal (.error e)

variable {s t : State} {finish start : Nat} {sign : Option Bool} {ts : List Token}
  {ls : List Lexeme} {flaw : Flaw}

theorem Outcome.refused_at {α : Type} {refusal : List Lexeme → Flaw → Prop} {before : List Lexeme}
    {position : Nat} (h : refusal before flaw) (here : position = start + width before) :
    Outcome s finish start ts refusal
      (.error (.invalid flaw position) : Except Error (α × List Token)) := by
  rw [here]
  exact .refused h

theorem head_token {l : Lexeme} (head : l ∈ (ts.map Token.lexeme).head?) :
    ∃ position rest, ts = ⟨l, position⟩ :: rest := by
  cases ts with
  | nil => cases head
  | cons t rest =>
    cases head
    exact ⟨t.position, rest, rfl⟩

theorem Chosen.here (wrong : Wrong s ls [] flaw) (exponent : flaw = .coefficientTooLarge →
    ∀ other flaw', Wrong s ls other flaw' → ¬ SameTerm [] other) : Chosen s ls [] flaw :=
  ⟨wrong, fun _ _ _ shorter => absurd shorter (Nat.not_lt_zero _), exponent⟩

/-- The reader refuses what cannot come next where it stands. -/
theorem refuse_wrong (placed : Placed finish start ts)
    (stuck : ∀ l ∈ (ts.map Token.lexeme).head?, s.next l = none)
    (unfinished : ts = [] → s.complete = false) :
    ∃ flaw, refuse finish s.wanted ts = .invalid flaw start ∧ flaw ≠ .coefficientTooLarge ∧
      Wrong s (ts.map Token.lexeme) [] flaw := by
  cases ts with
  | nil =>
    obtain rfl : start = finish := placed
    exact ⟨_, rfl, nofun, .ends (unfinished rfl)⟩
  | cons t ts =>
    obtain ⟨rfl, -⟩ := placed
    exact ⟨_, rfl, nofun, .misplaced (stuck t.lexeme rfl)⟩

theorem stops_number (next : ls.head? ≠ some .unknown) : State.Stops .number ls := by
  intro l head apart
  cases l with
  | sign negative => exact absurd rfl (apart negative)
  | unknown => exact absurd head next
  | _ => rfl

theorem stops_unknown (next : ls.head? ≠ some .caret) : State.Stops .unknown ls := by
  intro l head apart
  cases l with
  | sign negative => exact absurd rfl (apart negative)
  | caret => exact absurd head next
  | _ => rfl

theorem stops_exponent : State.Stops .exponent ls := by
  intro l _ apart
  cases l with
  | sign negative => exact absurd rfl (apart negative)
  | _ => rfl

/-- What an exponent is refused for shows after the caret. -/
def ExponentWrong (ls before : List Lexeme) (flaw : Flaw) : Prop :=
  before = [.caret] ∧ flaw ≠ .coefficientTooLarge ∧ Wrong .unknown ls before flaw

theorem readExponent_outcome (placed : Placed finish start ts) :
    Outcome .unknown finish start ts (ExponentWrong (ts.map Token.lexeme))
      (readExponent finish ts) := by
  have caret : Right .unknown .caret := .of_next rfl nofun
  unfold readExponent
  split
  · rename_i p digits q rest
    obtain ⟨-, rfl, placed⟩ := placed
    change Outcome _ _ _ _ _ ((exponentValue digits (start + 1)).map (·, rest))
    rcases exponentValue_outcome digits (start + 1) with
      ⟨values, read, -, small⟩ | ⟨read, high⟩ | ⟨quoted, read, -⟩
    · rw [read]
      have passes : Passes .unknown [.caret, .numeral ⟨digits, none⟩] .exponent :=
        .cons rfl caret (.cons rfl (.exponent small) (.nil _))
      refine .through rfl passes rfl stops_exponent ?_
      rwa [width_cons, width_cons, ← Nat.add_assoc, ← Nat.add_assoc]
    · rw [read]
      have refusal : ExponentWrong (.caret :: .numeral ⟨digits, none⟩ :: rest.map Token.lexeme)
          [.caret] .exponentTooLarge := ⟨rfl, nofun, .later rfl (.exponent high)⟩
      exact .refused refusal
    · rw [read]
      exact .quoted nofun
  · rename_i p rest other
    obtain ⟨-, placed⟩ := placed
    have stuck : ∀ l ∈ (rest.map Token.lexeme).head?, State.next .caret l = none := by
      intro l head
      obtain ⟨q, more, rfl⟩ := head_token head
      match l with
      | .numeral ⟨digits, none⟩ => exact absurd rfl (other digits q more)
      | .numeral ⟨digits, some places⟩ => rfl
      | .sign negative => rfl
      | .unknown => rfl
      | .caret => rfl
    obtain ⟨flaw, refused, apart, wrong⟩ := refuse_wrong placed stuck fun _ => rfl
    have exponent : State.wanted .caret = .exponent := rfl
    rw [← exponent, refused]
    have refusal : ExponentWrong (.caret :: rest.map Token.lexeme) [.caret] flaw :=
      ⟨rfl, apart, .later rfl wrong⟩
    exact .refused refusal
  · rename_i whole other
    refine .through rfl (.nil _) rfl (stops_unknown fun head => ?_) placed
    obtain ⟨q, more, rfl⟩ := head_token head
    exact other q more rfl

theorem ExponentWrong.chosen {before : List Lexeme} (h : ExponentWrong ls before flaw) :
    Chosen .unknown ls before flaw := by
  obtain ⟨rfl, apart, wrong⟩ := h
  refine ⟨wrong, fun other flaw' sooner shorter => ?_, fun same => absurd same apart⟩
  obtain rfl : other = [] := by simpa using shorter
  cases wrong with
  | later step more =>
    have right : Right .unknown .caret := .of_next rfl nofun
    exact absurd sooner (right _ _)

/-- A body may begin. -/
structure Fresh (s : State) : Prop where
  number (n : Numeral) : s.next (.numeral n) = some .number
  unknown : s.next .unknown = some .unknown
  caret : s.next .caret = none
  apart : s ≠ .caret
  wanted : s.wanted = .term
  incomplete : s.complete = false

theorem fresh_start : Fresh .start := ⟨fun _ => rfl, rfl, rfl, nofun, rfl, rfl⟩

theorem fresh_signed : Fresh .signed := ⟨fun _ => rfl, rfl, rfl, nofun, rfl, rfl⟩

theorem Fresh.passes_number {n : Numeral} (fresh : Fresh s) (small : ¬ TooLarge n) :
    Passes s [.numeral n] .number :=
  .cons (fresh.number n) (.coefficient fresh.apart (fresh.number n) small) (.nil _)

theorem Fresh.passes_unknown (fresh : Fresh s) : Passes s [.unknown] .unknown :=
  .cons fresh.unknown (.of_next fresh.unknown nofun) (.nil _)

theorem passes_factor : Passes .number [.unknown] .unknown :=
  .cons rfl (.of_next rfl nofun) (.nil _)

/-- The coefficient of a term comes up only after its exponent has been read. -/
theorem ExponentWrong.after_coefficient {before : List Lexeme} {n : Numeral} (fresh : Fresh s)
    (h : ExponentWrong ls before flaw) :
    Chosen s (.numeral n :: .unknown :: ls) (.numeral n :: .unknown :: before) flaw := by
  obtain ⟨rfl, apart, wrong⟩ := h
  refine ⟨.later (fresh.number n) (.later rfl wrong), ?_, fun same => absurd same apart⟩
  intro other flaw' sooner shorter
  cases other with
  | nil => exact ⟨n, rfl⟩
  | cons l other =>
    -- nothing is wrong with the unknown nor with the caret
    cases sooner with
    | later step more =>
      rw [fresh.number n] at step
      cases step
      obtain ⟨others, rfl, sooner⟩ := passes_factor.wrong more
      have chosen : Chosen .unknown ls [.caret] flaw := ExponentWrong.chosen ⟨rfl, apart, wrong⟩
      have shortest : others.length < [Lexeme.caret].length := by
        simp only [List.length_append, List.length_cons, List.length_nil] at shorter ⊢
        omega
      obtain ⟨m, same⟩ := chosen.earlier others flaw' sooner shortest
      have lengths := congrArg List.length same
      simp at lengths

/-- When the exponent of its term is right, a coefficient out of range is reported. -/
theorem chosen_coefficient {n : Numeral} {used : List Lexeme} (fresh : Fresh s) (large : TooLarge n)
    (passes : Passes .unknown used t) (complete : t.complete = true) (stops : t.Stops ls) :
    Chosen s (.numeral n :: .unknown :: (used ++ ls)) [] .coefficientTooLarge := by
  refine .here (.coefficient fresh.apart (fresh.number n) large) ?_
  rintro - _ flaw' wrong ⟨m, rfl⟩
  cases wrong with
  | later step more =>
    rw [fresh.number n] at step
    cases step
    cases more with
    | later step more =>
      cases step
      obtain ⟨others, same, wrong⟩ := passes.wrong more
      cases passes with
      | nil =>
        obtain rfl : others = [.caret] := same.symm
        cases wrong with
        | later => cases stops .caret rfl nofun
      | cons step right passes =>
        obtain ⟨rfl, rest⟩ := List.cons.inj same
        obtain ⟨rfl, -⟩ := List.append_eq_nil_iff.mp rest.symm
        cases step
        cases passes
        cases complete

/-- A number without the unknown has no exponent that could be judged before it. -/
theorem chosen_number {n : Numeral} (fresh : Fresh s) (large : TooLarge n)
    (next : ls.head? ≠ some .unknown) :
    Chosen s (.numeral n :: ls) [] .coefficientTooLarge := by
  refine .here (.coefficient fresh.apart (fresh.number n) large) ?_
  rintro - _ flaw' wrong ⟨m, rfl⟩
  cases wrong with
  | later step more =>
    rw [fresh.number n] at step
    cases step
    cases more
    exact next rfl

theorem coefficient_reads_or {n : Numeral} {rest : List Token} {f : Float → Term}
    {refusal : List Lexeme → Flaw → Prop}
    (small : ¬ TooLarge n → ∀ c, Outcome s finish start ts refusal (.ok (f c, rest)))
    (large : TooLarge n → refusal [] .coefficientTooLarge) :
    Outcome s finish start ts refusal
      ((coefficient sign n start).map fun c => (f c, rest)) := by
  rcases coefficient_outcome sign n start with ⟨c, read, fits⟩ | ⟨read, exceeds⟩ | ⟨_, read⟩
  · rw [read]
    exact small fits c
  · rw [read]
    exact .refused (large exceeds)
  · rw [read]
    exact .quoted nofun

theorem readBody_outcome (fresh : Fresh s)
    (unsigned : ∀ l ∈ (ts.map Token.lexeme).head?, (∃ negative, l = .sign negative) →
      s.next l = none)
    (placed : Placed finish start ts) :
    Outcome s finish start ts (Chosen s (ts.map Token.lexeme)) (readBody finish sign ts) := by
  unfold readBody
  split
  · rename_i n p q rest
    obtain ⟨rfl, -, placed⟩ := placed
    have exponent := readExponent_outcome placed
    generalize readExponent finish rest = result at exponent ⊢
    cases exponent with
    | through same passes complete stops placed =>
      rename_i used rest' t
      have whole : (⟨.numeral n, p⟩ :: ⟨.unknown, q⟩ :: rest).map Token.lexeme =
          .numeral n :: .unknown :: (used ++ rest'.map Token.lexeme) := by
        rw [List.map_cons, List.map_cons, same]
      refine coefficient_reads_or (fun small _ => ?_) fun large => ?_
      · refine .through whole ((fresh.passes_number small).append (passes_factor.append passes))
          complete stops ?_
        rwa [width_append, width_append, width_singleton, width_singleton, ← Nat.add_assoc,
          ← Nat.add_assoc]
      · rw [whole]
        exact chosen_coefficient fresh large passes complete stops
    | refused refused =>
      refine .refused_at (refused.after_coefficient fresh) ?_
      rw [width_cons, width_cons, ← Nat.add_assoc, ← Nat.add_assoc]
    | quoted other => exact .quoted other
  · rename_i n p rest other
    obtain ⟨rfl, placed⟩ := placed
    have next : (rest.map Token.lexeme).head? ≠ some .unknown := by
      intro head
      obtain ⟨q, more, rfl⟩ := head_token head
      exact other q more rfl
    refine coefficient_reads_or (fun small _ => ?_) fun large => chosen_number fresh large next
    rw [← width_singleton] at placed
    exact .through rfl (fresh.passes_number small) rfl (stops_number next) placed
  · rename_i p rest
    obtain ⟨-, placed⟩ := placed
    have exponent := readExponent_outcome placed
    generalize readExponent finish rest = result at exponent ⊢
    cases exponent with
    | through same passes complete stops placed =>
      refine .through ?_ (fresh.passes_unknown.append passes) complete stops ?_
      · rw [List.map_cons, same]
        rfl
      · rwa [width_append, ← Nat.add_assoc]
    | refused refused =>
      refine .refused_at (fresh.passes_unknown.chosen refused.chosen) ?_
      rw [width_append, ← Nat.add_assoc]
      rfl
    | quoted other => exact .quoted other
  · rename_i whole noTerm noNumber noUnknown
    have stuck : ∀ l ∈ (ts.map Token.lexeme).head?, s.next l = none := by
      intro l head
      obtain ⟨q, more, rfl⟩ := head_token head
      cases l with
      | sign negative => exact unsigned _ head ⟨negative, rfl⟩
      | caret => exact fresh.caret
      | numeral n => exact absurd rfl (noNumber n q more)
      | unknown => exact absurd rfl (noUnknown q more)
    obtain ⟨flaw, refused, apart, wrong⟩ := refuse_wrong placed stuck fun _ => fresh.incomplete
    rw [← fresh.wanted, refused]
    have chosen : Chosen s (ts.map Token.lexeme) [] flaw :=
      .here wrong fun same => absurd same apart
    exact .refused_at chosen rfl

/-- What comes of reading on, once lexemes have been read without fault. -/
theorem Outcome.after {α : Type} {result : Except Error (α × List Token)} {used : List Lexeme}
    {rest : List Token} (passes : Passes s used t)
    (same : ts.map Token.lexeme = used ++ rest.map Token.lexeme)
    (h : Outcome t finish (start + width used) rest (Chosen t (rest.map Token.lexeme)) result) :
    Outcome s finish start ts (Chosen s (ts.map Token.lexeme)) result := by
  cases h with
  | through split more complete stops placed =>
    refine .through ?_ (passes.append more) complete stops ?_
    · rw [same, split, List.append_assoc]
    · rwa [width_append, ← Nat.add_assoc]
  | refused chosen =>
    rw [same]
    refine .refused_at (passes.chosen chosen) ?_
    rw [width_append, Nat.add_assoc]
  | quoted other => exact .quoted other

theorem next_sign (negative : Bool) (ready : s = .start ∨ s.complete = true) :
    s.next (.sign negative) = some .signed := by
  rcases ready with rfl | complete
  · rfl
  · cases s <;> first | rfl | cases complete

theorem readTerm_outcome (ready : s = .start ∨ s.complete = true)
    (first : s = .start ∨ ∃ negative, (ts.map Token.lexeme).head? = some (.sign negative))
    (placed : Placed finish start ts) :
    Outcome s finish start ts (Chosen s (ts.map Token.lexeme)) (readTerm finish ts) := by
  unfold readTerm
  split
  · rename_i negative p rest
    obtain ⟨-, placed⟩ := placed
    have step := next_sign negative ready
    have sign : Passes s [.sign negative] .signed := .cons step (.of_next step nofun) (.nil _)
    refine Outcome.after sign rfl (readBody_outcome fresh_signed ?_ ?_)
    · rintro _ - ⟨_, rfl⟩
      rfl
    · rwa [width_singleton]
  · rename_i other
    have unsigned (negative : Bool) : (ts.map Token.lexeme).head? ≠ some (.sign negative) := by
      intro head
      obtain ⟨q, more, rfl⟩ := head_token head
      exact other negative q more rfl
    obtain rfl := first.resolve_right fun ⟨negative, head⟩ => unsigned negative head
    refine readBody_outcome fresh_start ?_ placed
    rintro _ head ⟨negative, rfl⟩
    exact absurd head (unsigned negative)

/-- What is refused after the first term is chosen from what is wrong with the lexemes. -/
theorem readMore_refused {position : Nat} (complete : s.complete = true)
    (stops : s.Stops (ts.map Token.lexeme)) (placed : Placed finish start ts)
    (failed : readMore finish ts = .error (.invalid flaw position)) :
    ∃ before, position = start + width before ∧ Chosen s (ts.map Token.lexeme) before flaw := by
  fun_induction readMore finish ts generalizing s start with
  | case1 => cases failed
  | case2 negative p rest e read =>
    have outcome := readTerm_outcome (.inr complete) (.inr ⟨negative, rfl⟩) placed
    rw [read] at outcome
    cases failed
    cases outcome with
    | refused chosen => exact ⟨_, rfl, chosen⟩
    | quoted other => exact absurd rfl (other _ _)
  | case3 negative p rest term others read ih =>
    have outcome := readTerm_outcome (.inr complete) (.inr ⟨negative, rfl⟩) placed
    rw [read] at outcome
    cases outcome with
    | through same passes complete stops placed =>
      cases more : readMore finish others with
      | ok terms =>
        rw [more] at failed
        cases failed
      | error e =>
        rw [more] at failed
        cases failed
        obtain ⟨before, rfl, chosen⟩ := ih complete stops placed more
        refine ⟨_ ++ before, ?_, same ▸ passes.chosen chosen⟩
        rw [width_append, Nat.add_assoc]
  | case4 ts some unsigned =>
    have stuck : ∀ l ∈ (ts.map Token.lexeme).head?, s.next l = none := by
      intro l head
      refine stops l head fun negative sign => ?_
      obtain ⟨q, more, rfl⟩ := head_token head
      exact unsigned negative q more (sign ▸ rfl)
    have sign : s.wanted = .sign := by cases s <;> first | rfl | cases complete
    obtain ⟨flaw', refused, apart, wrong⟩ :=
      refuse_wrong placed stuck fun none => absurd none some
    rw [← sign, refused] at failed
    cases failed
    exact ⟨[], rfl, .here wrong fun same => absurd same apart⟩

theorem readTerms_refused {position : Nat} (placed : Placed finish 0 ts)
    (failed : readTerms finish ts = .error (.invalid flaw position)) :
    ∃ before, position = width before ∧ Chosen .start (ts.map Token.lexeme) before flaw := by
  have outcome := readTerm_outcome (.inl rfl) (.inl rfl) placed
  unfold readTerms at failed
  generalize readTerm finish ts = result at outcome failed
  cases outcome with
  | refused chosen =>
    cases failed
    exact ⟨_, Nat.zero_add _, chosen⟩
  | quoted other =>
    cases failed
    exact absurd rfl (other _ _)
  | through same passes complete stops placed =>
    rename_i term used rest t
    dsimp only at failed
    cases more : readMore finish rest with
    | ok terms =>
      rw [more] at failed
      cases failed
    | error e =>
      rw [more] at failed
      cases failed
      obtain ⟨before, rfl, chosen⟩ := readMore_refused complete stops placed more
      refine ⟨used ++ before, ?_, same ▸ passes.chosen chosen⟩
      rw [width_append, Nat.zero_add]

end Reading

end RootFinder.Expression
