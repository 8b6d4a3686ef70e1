import Mathlib
import RootFinder.Proofs.Polynomial.Trimming
import RootFinder.Proofs.Solution.Outcome

/-! The shape of every solution. Wherever the solver stops, the trace up to there agrees with what
is known by then, and the record that closes it keeps that. -/
namespace RootFinder

namespace Event

def vector? : Event → Option (List Float)
  | parsed coefficients => some coefficients
  | trimmed _ after => some after
  | _ => none

def choice? : Event → Option (Strategy × Nat)
  | dispatched strategy degree => some (strategy, degree)
  | _ => none

def count? : Event → Option Nat
  | rooted count => some count
  | _ => none

def notice? : Event → Option Notice
  | failed notice => some notice
  | _ => none

/-- The lines of records other than a failure are never empty. -/
theorem note_ne_empty {e : Event} (other : e.notice? = none) : e.note? ≠ some "" := by
  intro empty
  cases e with
  | parsed coefficients =>
    have front := (String.append_eq_empty_iff.mp (Option.some.inj empty)).1
    exact absurd front (by decide)
  | trimmed before after =>
    have front := (String.append_eq_empty_iff.mp (Option.some.inj empty)).1
    exact absurd front (by decide)
  | keptCubic => cases empty
  | dispatched strategy degree =>
    have last := (String.append_eq_empty_iff.mp (Option.some.inj empty)).2
    exact absurd last (by decide)
  | rooted count =>
    have last := (String.append_eq_empty_iff.mp (Option.some.inj empty)).2
    exact absurd last (by decide)
  | failed notice => cases other

end Event

namespace Trace

def kinds (t : Trace Event) : List String := t.events.map Event.kind

/-- The vector of the last record that shows one. -/
def vector (t : Trace Event) : List Float := (t.events.filterMap Event.vector?).getLast?.getD []

theorem kinds_record (t : Trace Event) (e : Event) : (t.record e).kinds = t.kinds ++ [e.kind] := by
  simp [kinds, record]

theorem filterMap_record (t : Trace Event) (e : Event) (f : Event → Option α) :
    (t.record e).events.filterMap f = t.events.filterMap f ++ (f e).toList := by
  simp only [record, events_add, List.filterMap_append]
  cases same : f e <;> simp [same]

theorem vector_record_of_none {e : Event} (t : Trace Event) (none : e.vector? = none) :
    (t.record e).vector = t.vector := by
  rw [vector, filterMap_record, none, Option.toList_none, List.append_nil]
  rfl

theorem vector_record_of_some {e : Event} {v : List Float} (t : Trace Event)
    (shows : e.vector? = some v) : (t.record e).vector = v := by
  rw [vector, filterMap_record, shows, Option.toList_some, List.getLast?_concat]
  rfl

/-- The notes are the lines of the records, none of them lost. -/
def Lined (t : Trace Event) : Prop := t.notes = t.events.filterMap Event.note?

theorem Lined.record {t : Trace Event} {e : Event} (lined : t.Lined) (line : e.note? ≠ some "") :
    (t.record e).Lined := by
  have kept : e.note?.filter (!·.isEmpty) = e.note? := by
    cases same : e.note? with
    | none => rfl
    | some text =>
      have begun : text.isEmpty = false := by
        apply Bool.eq_false_iff.mpr
        intro empty
        rw [same, String.isEmpty_iff.mp empty] at line
        exact line rfl
      rw [Option.filter_some, begun]
      rfl
  rw [Lined, filterMap_record, ← lined, ← kept]
  rfl

end Trace

/-- The records before the roots, with or without one for the trimming. -/
def stages (trimming : Bool) : List String :=
  "parse" :: (if trimming then ["trim"] else []) ++ ["strategy"]

structure Solved (s : Solution) (solver : Strategy) (found : List (Root Float)) : Prop where
  strategy : s.strategy = some solver
  length : 2 ≤ s.coefficients.length
  select : Strategy.select? s.coefficients.length = some solver
  find : findRoots s.coefficients = .ok (solver, found)
  rounded : found.mapM (Root.round places) = .ok s.roots
  reported : ∀ root ∈ s.roots, root.IsReported
  count : solver ≠ .newton → s.roots.length = s.coefficients.length - 1

/-- What holds between the fields of a solution and its trace, whatever the outcome. -/
structure Shape (s : Solution) : Prop where
  outcome : (s.ok = true ∧ s.notice? = none ∧ s.roots ≠ []) ∨
    (s.ok = false ∧ s.roots = [] ∧ ∃ notice, s.notice? = some notice ∧ notice.message ≠ "" ∧
      notice.kind ∈ [.empty, .invalid, .constant, .internal])
  solved : s.ok = true → ∃ strategy found, Solved s strategy found
  kinds : (s.ok = true ∧ ∃ trimming, s.trace.kinds = stages trimming ++ ["roots"]) ∨
    (s.ok = false ∧ ∃ trimming before, before <+: stages trimming ∧
      s.trace.kinds = before ++ ["error"])
  strategy : s.trace.events.filterMap Event.choice? =
    s.strategy.toList.map fun strategy => (strategy, s.coefficients.length - 1)
  coefficients : s.coefficients = s.trace.vector
  count : s.trace.events.filterMap Event.count? = if s.ok then [s.roots.length] else []
  notice : s.trace.events.filterMap Event.notice? = s.notice?.toList
  steps : s.trace.Lined

/-- What is known agrees with the trace, which is open: no roots and no failure are recorded. -/
structure Progress (coefficients : List Float) (strategy : Option Strategy) (t : Trace Event) :
    Prop where
  kinds : ∃ trimming, t.kinds <+: stages trimming
  strategy : t.events.filterMap Event.choice? =
    strategy.toList.map fun strategy => (strategy, coefficients.length - 1)
  coefficients : coefficients = t.vector
  count : t.events.filterMap Event.count? = []
  notice : t.events.filterMap Event.notice? = []
  lined : t.Lined

theorem Progress.empty : Progress [] none .empty where
  kinds := ⟨false, List.nil_prefix⟩
  strategy := rfl
  coefficients := rfl
  count := rfl
  notice := rfl
  lined := rfl

namespace Progress

variable {coefficients : List Float} {strategy : Option Strategy} {t : Trace Event}

theorem extend {after : List Float} {e : Event} (p : Progress coefficients none t)
    (kinds : ∃ trimming, (t.record e).kinds <+: stages trimming)
    (vector : after = (t.record e).vector) (choice : e.choice? = none) (count : e.count? = none)
    (notice : e.notice? = none) : Progress after none (t.record e) where
  kinds := kinds
  strategy := by rw [Trace.filterMap_record, p.strategy, choice]; rfl
  coefficients := vector
  count := by rw [Trace.filterMap_record, p.count, count]; rfl
  notice := by rw [Trace.filterMap_record, p.notice, notice]; rfl
  lined := p.lined.record (Event.note_ne_empty notice)

theorem parsed (v : List Float) : Progress v none (Trace.empty.record (.parsed v)) :=
  extend .empty ⟨false, ["strategy"], rfl⟩ rfl rfl rfl rfl

/-- The choice of a strategy. -/
theorem dispatched {trimming : Bool} (p : Progress coefficients none t)
    (kinds : t.kinds ++ ["strategy"] = stages trimming) (solver : Strategy) :
    (t.record (.dispatched solver (coefficients.length - 1))).kinds = stages trimming ∧
      Progress coefficients (some solver)
        (t.record (.dispatched solver (coefficients.length - 1))) := by
  have complete := (t.kinds_record (.dispatched solver (coefficients.length - 1))).trans kinds
  exact ⟨complete, {
    kinds := ⟨trimming, [], (List.append_nil _).trans complete⟩
    strategy := by rw [Trace.filterMap_record, p.strategy]; rfl
    coefficients := p.coefficients.trans (t.vector_record_of_none rfl).symm
    count := by rw [Trace.filterMap_record, p.count]; rfl
    notice := by rw [Trace.filterMap_record, p.notice]; rfl
    lined := p.lined.record (Event.note_ne_empty rfl) }⟩

end Progress

theorem trim_of_length {parsed : List Float}
    (same : (Polynomial.trim parsed).length = parsed.length) : Polynomial.trim parsed = parsed := by
  obtain ⟨zeros, -, split, -⟩ := Polynomial.eq_trim_append parsed
  have lengths := congrArg List.length split
  rw [List.length_append] at lengths
  have none : zeros = [] := List.length_eq_zero_iff.mp (by omega)
  rw [none, List.append_nil] at split
  exact split.symm

/-- The trace up to the trimming, which is recorded when it did something or was left out. -/
theorem opening_progress (parsed : List Float) :
    Progress (Polynomial.trim parsed) none (Solution.opening parsed (Polynomial.trim parsed)) ∧
      ∃ trimming, (Solution.opening parsed (Polynomial.trim parsed)).kinds ++ ["strategy"] =
        stages trimming := by
  unfold Solution.opening
  dsimp only
  split
  · refine ⟨(Progress.parsed parsed).extend ⟨true, ["strategy"], rfl⟩ ?_ rfl rfl rfl, true, rfl⟩
    exact (Trace.vector_record_of_some _ rfl).symm
  · rename_i same
    rw [trim_of_length (not_not.mp same)]
    split
    · exact ⟨(Progress.parsed parsed).extend ⟨true, ["strategy"], rfl⟩ rfl rfl rfl rfl, true, rfl⟩
    · exact ⟨Progress.parsed parsed, false, rfl⟩

theorem located_ne_empty (wording : String) (position : Int) :
    Expression.located wording position ≠ "" := by
  intro none
  have last := (String.append_eq_empty_iff.mp none).2
  exact absurd last (by decide)

theorem message_ne_empty (failure : Failure) : failure.notice.message ≠ "" := by
  have internal : ∀ wording : String,
      "An error occurred while solving the polynomial: " ++ wording ≠ "" := by
    intro wording none
    simp [String.append_eq_empty_iff] at none
  cases failure with
  | expression e =>
    cases e with
    | empty => decide
    | invalid flaw position => exact located_ne_empty _ _
    | noDecimal numeral => exact internal _
    | noInteger digits => exact internal _
    | noText kind => exact internal _
  | constant => decide
  | fault f => exact internal _
  | noRealRoots solver => exact internal _
  | notFinite solver => exact internal _

theorem kind_mem (failure : Failure) :
    failure.notice.kind ∈ [.empty, .invalid, .constant, .internal] := by
  cases failure with
  | expression e => cases e <;> simp [Failure.notice, Notice.of]
  | _ => simp [Failure.notice, Notice.of]

/-- A failure leaves what is known as it is, and closes the trace. -/
theorem Progress.unsolved {coefficients : List Float} {strategy : Option Strategy}
    {t : Trace Event} (p : Progress coefficients strategy t) (submitted : Json)
    (failure : Failure) :
    Shape (Solution.unsolved submitted coefficients strategy t failure) where
  outcome := .inr ⟨rfl, rfl, failure.notice, rfl, message_ne_empty failure, kind_mem failure⟩
  solved := by rintro ⟨⟩
  kinds := by
    obtain ⟨trimming, before⟩ := p.kinds
    exact .inr ⟨rfl, trimming, t.kinds, before, t.kinds_record _⟩
  strategy := by
    rw [Solution.unsolved, Trace.filterMap_record, p.strategy]
    exact List.append_nil _
  coefficients := p.coefficients.trans (t.vector_record_of_none rfl).symm
  count := by
    rw [Solution.unsolved, Trace.filterMap_record, p.count]
    rfl
  notice := by
    rw [Solution.unsolved, Trace.filterMap_record, p.notice]
    rfl
  steps := p.lined.record fun empty => message_ne_empty failure (Option.some.inj empty)

/-- Roots close the trace. -/
theorem Progress.solved {coefficients : List Float} {solver : Strategy} {t : Trace Event}
    {found rounded : List (Root Float)} (p : Progress coefficients (some solver) t)
    {trimming : Bool} (kinds : t.kinds = stages trimming)
    (find : findRoots coefficients = .ok (solver, found))
    (presented : present solver found = .ok rounded) (submitted : Json) :
    Shape ⟨submitted, coefficients, some solver, t.record (.rooted rounded.length),
      .ok rounded⟩ := by
  obtain ⟨same, begun, reported⟩ := present_eq_ok presented
  obtain ⟨select, run⟩ := findRoots_eq_ok find
  exact {
    outcome := .inl ⟨rfl, rfl, begun⟩
    solved := fun _ => ⟨solver, found, {
      strategy := rfl
      length := two_le_of_select select
      select := select
      find := find
      rounded := same
      reported := reported
      count := by
        intro closed
        have count := Strategy.run_count closed run
        have length := (mapM_eq_ok same).length_eq
        dsimp only [Solution.roots]
        omega }⟩
    kinds := .inl ⟨rfl, trimming, by rw [Trace.kinds_record, kinds]; rfl⟩
    strategy := by
      rw [Trace.filterMap_record, p.strategy]
      exact List.append_nil _
    coefficients := p.coefficients.trans (t.vector_record_of_none rfl).symm
    count := by
      rw [Trace.filterMap_record, p.count]
      rfl
    notice := by
      rw [Trace.filterMap_record, p.notice]
      rfl
    steps := p.lined.record (Event.note_ne_empty rfl) }

/-- Whatever is submitted, the solution has the shape of its outcome. -/
theorem solve_shape (submitted : Json) : Shape (solve submitted) := by
  have outcome := solve_outcome submitted
  generalize solve submitted = s at outcome
  cases outcome with
  | unread read => exact Progress.empty.unsolved submitted _
  | @unfound parsed failure read find =>
    obtain ⟨opened, -⟩ := opening_progress parsed
    exact opened.unsolved submitted failure
  | @unpresented parsed solver found failure read find presented =>
    obtain ⟨opened, trimming, kinds⟩ := opening_progress parsed
    obtain ⟨-, dispatched⟩ := opened.dispatched kinds solver
    exact dispatched.unsolved submitted failure
  | @solved parsed solver found rounded read find presented =>
    obtain ⟨opened, trimming, kinds⟩ := opening_progress parsed
    obtain ⟨complete, dispatched⟩ := opened.dispatched kinds solver
    exact dispatched.solved complete find presented submitted

end RootFinder
