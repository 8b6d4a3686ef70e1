import Mathlib
import RootFinder.Proofs.Expression.Refusal

/-! Which fault of a text is reported. Characters that start no lexeme are looked for in the whole
text before anything else is, and an exponent is judged before the coefficient of its term; apart
from that it is the first one. -/
namespace RootFinder.Expression

section Faults

variable {cs : List Char} {s : State} {ls before : List Lexeme} {flaw : Flaw}

/-- The state tells what is wanted after the lexemes, and whether a caret was the last of them. -/
theorem wanted_of_run (run : State.run .start before = some s) :
    wanted before = s.wanted ∧ (before.getLast? = some .caret ↔ s = .caret) := by
  rcases List.eq_nil_or_concat before with rfl | ⟨ls, l, rfl⟩
  · cases run
    exact ⟨rfl, by decide⟩
  · rw [List.concat_eq_append, State.run_append, Option.bind_eq_some_iff] at run
    obtain ⟨t, -, last⟩ := run
    rw [State.run_cons, Option.bind_eq_some_iff] at last
    obtain ⟨u, step, same⟩ := last
    cases same
    unfold wanted
    rw [List.concat_eq_append, List.getLast?_concat]
    rcases l with negative | ⟨whole, _ | fraction⟩ | _ | _ <;> cases t <;> cases step <;>
      simp [State.wanted]

/-- What is wrong after lexemes shows in the state they lead to. -/
theorem Wrong.here (h : Wrong .start ls before flaw) :
    ∃ s rest, ls = before ++ rest ∧ State.run .start before = some s ∧ Wrong s rest [] flaw := by
  suffices ∀ t, Wrong t ls before flaw →
      ∃ s rest, ls = before ++ rest ∧ State.run t before = some s ∧ Wrong s rest [] flaw from
    this _ h
  clear h
  intro t h
  induction h with
  | later step more ih =>
    obtain ⟨s, rest, rfl, run, wrong⟩ := ih
    refine ⟨s, rest, rfl, ?_, wrong⟩
    rw [State.run_cons, step, Option.bind_some, run]
  | misplaced stuck => exact ⟨_, _, rfl, rfl, .misplaced stuck⟩
  | exponent high => exact ⟨_, _, rfl, rfl, .exponent high⟩
  | coefficient apart step large => exact ⟨_, _, rfl, rfl, .coefficient apart step large⟩
  | ends unfinished => exact ⟨_, _, rfl, rfl, .ends unfinished⟩

theorem step_of_viable {l : Lexeme} (viable : Viable (before ++ [l])) :
    ∃ s, State.run .start before = some s ∧ ∃ t, s.next l = some t := by
  obtain ⟨t, run⟩ := viable_iff_run.mp viable
  have parts := run
  rw [State.run_append, Option.bind_eq_some_iff] at parts
  obtain ⟨s, front, -⟩ := parts
  exact ⟨s, front, t, (run_concat front).symm.trans run⟩

/-- What is wrong with the lexemes of a text is a fault of the text. -/
theorem fault_of_wrong (read : Begins cs ls []) (h : Wrong .start ls before flaw) :
    Fault cs before flaw := by
  obtain ⟨s, rest, rfl, run, wrong⟩ := h.here
  obtain ⟨want, caret⟩ := wanted_of_run run
  have viable : Viable before := viable_iff_run.mpr ⟨s, run⟩
  have goesOn {l : Lexeme} {more : List Lexeme} (read : Begins cs (before ++ l :: more) []) :
      ∃ rest, Begins cs (before ++ [l]) rest := by
    rw [List.append_cons] at read
    obtain ⟨rest, front, -⟩ := read.of_append
    exact ⟨rest, front⟩
  cases wrong with
  | misplaced stuck =>
    obtain ⟨rest, front⟩ := goesOn read
    rw [← want]
    exact .misplaced front viable (not_viable_of_stuck run stuck)
  | exponent high =>
    obtain ⟨rest, front⟩ := goesOn read
    exact .exponent front (viable_iff_run.mpr ⟨.exponent, run_concat run⟩) (caret.mpr rfl) high
  | coefficient apart step large =>
    obtain ⟨rest, front⟩ := goesOn read
    exact .coefficient front (viable_iff_run.mpr ⟨_, (run_concat run).trans step⟩)
      (mt caret.mp apart) large
  | ends unfinished =>
    rw [List.append_nil] at read
    rw [← want]
    exact .ends read viable (not_isSentence_of_unfinished run unfinished)

/-- The faults of a text that can be read to its end are what is wrong with its lexemes. -/
theorem wrong_of_fault (read : Begins cs ls []) (h : Fault cs before flaw) :
    Wrong .start ls before flaw := by
  have here {s : State} {more : List Lexeme} {flaw : Flaw} (run : State.run .start before = some s)
      (wrong : Wrong s more [] flaw) : Wrong .start (before ++ more) before flaw := by
    simpa using wrong.append run
  cases h with
  | stray part none =>
    obtain ⟨more, -, back⟩ := read.prefix_of_stop rfl part
    cases back with
    | cons first =>
      rw [none] at first
      cases first
  | misplaced part viable stuck =>
    obtain ⟨more, rfl, -⟩ := read.prefix_of_stop rfl part
    obtain ⟨s, run⟩ := viable_iff_run.mp viable
    rw [(wanted_of_run run).1, ← List.append_cons]
    refine here run (.misplaced (Option.eq_none_iff_forall_ne_some.mpr fun t step => stuck ?_))
    exact viable_iff_run.mpr ⟨t, (run_concat run).trans step⟩
  | exponent part viable after high =>
    obtain ⟨more, rfl, -⟩ := read.prefix_of_stop rfl part
    rename_i n _
    obtain ⟨s, run, t, step⟩ := step_of_viable viable
    obtain rfl := (wanted_of_run run).2.mp after
    obtain ⟨digits, _ | fraction⟩ := n
    · rw [← List.append_cons]
      exact here run (.exponent high)
    · cases step
  | coefficient part viable apart large =>
    obtain ⟨more, rfl, -⟩ := read.prefix_of_stop rfl part
    obtain ⟨s, run, t, step⟩ := step_of_viable viable
    rw [← List.append_cons]
    exact here run (.coefficient (mt (wanted_of_run run).2.mpr apart) step large)
  | ends part viable unfinished =>
    obtain ⟨more, rfl, back⟩ := read.prefix_of_stop rfl part
    obtain ⟨s, run⟩ := viable_iff_run.mp viable
    rw [(wanted_of_run run).1]
    cases back with
    | nil =>
      refine here run (.ends (Bool.eq_false_iff.mpr fun complete => unfinished ?_))
      exact isSentence_iff_run.mpr ⟨s, run, complete⟩
    | cons first => cases first

/-- The fault that the parser reports of a text. A character that starts no lexeme goes before all
other faults; of those the first is reported, except that a coefficient comes after the exponent of
its term. -/
structure Reported (cs : List Char) (before : List Lexeme) (flaw : Flaw) : Prop where
  fault : Fault cs before flaw
  stray : ∀ other c, Fault cs other (.unexpected c) → other = before ∧ flaw = .unexpected c
  earlier : (∀ c, flaw ≠ .unexpected c) → ∀ other flaw', Fault cs other flaw' →
    width other < width before → SameTerm other before
  exponent : flaw = .coefficientTooLarge → ∀ other flaw', Fault cs other flaw' →
    ¬ SameTerm before other

theorem Chosen.reported (read : Begins cs ls []) (h : Chosen .start ls before flaw) :
    Reported cs before flaw := by
  refine ⟨fault_of_wrong read h.wrong, ?_, ?_, ?_⟩
  · intro other c fault
    obtain ⟨s, rest, -, -, stray⟩ := (wrong_of_fault read fault).here
    cases stray
  · intro _ other flaw' fault narrower
    have wrong := wrong_of_fault read fault
    refine h.earlier other flaw' wrong (Nat.lt_of_not_le fun longer => ?_)
    obtain ⟨-, rest, same, -, -⟩ := wrong.here
    obtain ⟨-, rest', same', -, -⟩ := h.wrong.here
    obtain ⟨more, rfl⟩ :=
      List.prefix_of_prefix_length_le ⟨rest', same'.symm⟩ ⟨rest, same.symm⟩ longer
    rw [width_append] at narrower
    omega
  · intro large other flaw' fault
    exact h.exponent large other flaw' (wrong_of_fault read fault)

/-- A character that starts no lexeme is the only one found. -/
theorem reported_stray {c : Char} {rest : List Char} (read : Begins cs before (c :: rest))
    (none : first? (c :: rest) = none) : Reported cs before (.unexpected c) := by
  refine ⟨.stray read none, ?_, fun other => absurd rfl (other c), nofun⟩
  intro other c' fault
  cases fault with
  | stray part none' =>
    obtain ⟨more, rfl, back⟩ := read.prefix_of_stop none part
    cases back with
    | nil => exact ⟨(List.append_nil _).symm, rfl⟩
    | cons first =>
      rw [none'] at first
      cases first

/-- Of two faults that could both be reported neither comes before the other. -/
theorem Reported.not_shorter {other : List Lexeme} {flaw' : Flaw} (read : Begins cs ls [])
    (h : Reported cs before flaw) (h' : Reported cs other flaw')
    (visible : ∀ c, flaw' ≠ .unexpected c) : ¬ before.length < other.length := by
  intro shorter
  obtain ⟨s, rest, same, run, wrong⟩ := (wrong_of_fault read h.fault).here
  obtain ⟨t, rest', same', run', -⟩ := (wrong_of_fault read h'.fault).here
  obtain ⟨more, rfl⟩ :=
    List.prefix_of_prefix_length_le ⟨rest, same.symm⟩ ⟨rest', same'.symm⟩ shorter.le
  have narrower : width before < width (before ++ more) := by
    rw [same'] at read
    obtain ⟨mid, front, -⟩ := read.of_append
    obtain ⟨_, -, last⟩ := front.of_append
    have positive := last.width_pos (by rintro rfl; simp at shorter)
    rw [width_append]
    omega
  have term := h'.earlier visible before flaw h.fault narrower
  obtain ⟨n, goesOn⟩ := term
  obtain rfl := List.append_cancel_left goesOn
  -- the coefficient stands in the way of the exponent only if it is reported itself
  rw [State.run_append, run, Option.bind_some, State.run_cons, Option.bind_eq_some_iff] at run'
  obtain ⟨u, step, path⟩ := run'
  obtain rfl : rest = [.numeral n, .unknown, .caret] ++ rest' := by
    rw [same', List.append_assoc] at same
    exact (List.append_cancel_left same).symm
  cases wrong with
  | misplaced stuck =>
    rw [stuck] at step
    cases step
  | exponent high =>
    cases step
    cases path
  | coefficient apart step' large => exact h.exponent rfl _ _ h'.fault ⟨n, rfl⟩

/-- The report is determined by the text. -/
theorem Reported.unique {other : List Lexeme} {flaw' : Flaw} (h : Reported cs before flaw)
    (h' : Reported cs other flaw') : before = other ∧ flaw = flaw' := by
  by_cases stray : ∃ c, flaw = .unexpected c
  · obtain ⟨c, rfl⟩ := stray
    obtain ⟨same, flaws⟩ := h'.stray before c h.fault
    exact ⟨same, flaws.symm⟩
  by_cases stray' : ∃ c, flaw' = .unexpected c
  · obtain ⟨c, rfl⟩ := stray'
    obtain ⟨same, flaws⟩ := h.stray other c h'.fault
    exact ⟨same.symm, flaws⟩
  have visible : ∀ c, flaw ≠ .unexpected c := fun c same => stray ⟨c, same⟩
  have visible' : ∀ c, flaw' ≠ .unexpected c := fun c same => stray' ⟨c, same⟩
  have tokenized := scan_tokenized 0 cs
  generalize scan 0 cs = result at tokenized
  cases tokenized with
  | stray read none => exact absurd (h.stray _ _ (.stray read none)).2 (visible _)
  | all read placed =>
    have first := h.not_shorter read h' visible'
    have second := h'.not_shorter read h visible
    obtain ⟨s, rest, same, run, wrong⟩ := (wrong_of_fault read h.fault).here
    obtain ⟨t, rest', same', run', wrong'⟩ := (wrong_of_fault read h'.fault).here
    rw [same] at same'
    obtain ⟨rfl, rfl⟩ := List.append_inj same' (by omega)
    rw [run] at run'
    cases run'
    exact ⟨rfl, wrong.unique wrong'⟩

end Faults

/-- An expression with a flaw is refused at the fault that is reported of its text, and there is one
such fault. -/
theorem parse_position {cs : List Char} {flaw : Flaw} {position : Nat}
    (failed : parse cs = .error (.invalid flaw position)) :
    ∃ before, position = width before ∧ Reported (normalize cs) before flaw ∧
      ∀ other flaw', Reported (normalize cs) other flaw' → before = other ∧ flaw = flaw' := by
  suffices found : ∃ before, position = width before ∧ Reported (normalize cs) before flaw by
    obtain ⟨before, here, reported⟩ := found
    exact ⟨before, here, reported, fun _ _ again => reported.unique again⟩
  have begun : normalize cs ≠ [] := by
    intro none
    rw [parse_empty none] at failed
    cases failed
  rw [parse_begun begun, terms, tokens] at failed
  have tokenized := scan_tokenized 0 (normalize cs)
  generalize scan 0 (normalize cs) = result at tokenized failed
  cases tokenized with
  | stray read none =>
    cases failed
    exact ⟨_, Nat.zero_add _, reported_stray read none⟩
  | all read placed =>
    rename_i ts
    have refused : readTerms (normalize cs).length ts = .error (.invalid flaw position) := by
      cases read : readTerms (normalize cs).length ts with
      | ok found =>
        simp only [Except.bind, read] at failed
        cases failed
      | error e =>
        simp only [Except.bind, read] at failed
        cases failed
        rfl
    rw [Nat.zero_add] at placed
    obtain ⟨before, rfl, chosen⟩ := readTerms_refused placed refused
    exact ⟨before, rfl, chosen.reported read⟩

/-- In `xx` the second unknown is refused. -/
theorem parse_position_unknowns : ∃ before, 1 = width before ∧
    Reported (normalize "xx".toList) before (.expected .sign (some ['x'])) := by
  obtain ⟨before, here, reported, -⟩ := parse_position
    (by decide +kernel : parse "xx".toList = .error (.invalid (.expected .sign (some ['x'])) 1))
  exact ⟨before, here, reported⟩

/-- Not the first fault is reported: in `xxy` the second unknown is out of place, but the letter is
found first. -/
theorem not_first_fault : ¬ ∀ (cs : List Char) (flaw : Flaw) (position : Nat),
    parse cs = .error (.invalid flaw position) → FirstFault (normalize cs) position := by
  intro always
  have text : normalize "xxy".toList = ['x', 'x', 'y'] := by decide +kernel
  have failed : parse "xxy".toList = .error (.invalid (.unexpected 'y') 2) := by decide +kernel
  have first := (always _ _ _ failed).2
  rw [text] at first
  have unknown (rest : List Char) : first? ('x' :: rest) = some (.unknown, rest) := rfl
  have read : Begins ['x', 'x', 'y'] [.unknown, .unknown] ['y'] :=
    .cons (unknown _) (.cons (unknown _) (.nil _))
  have viable : Viable [.unknown] := viable_iff_run.mpr ⟨.unknown, rfl⟩
  have stuck : ¬ Viable [.unknown, .unknown] := by
    intro more
    obtain ⟨s, run⟩ := viable_iff_run.mp more
    cases run
  exact absurd (first [.unknown] _ (.misplaced read viable stuck)) (by decide)

end RootFinder.Expression
