import Mathlib.Tactic.Common
import RootFinder.Proofs.Expression.Valueless
import RootFinder.Proofs.Service.Requests
import RootFinder.Proofs.Solution.Kinds

/-! The two services that read an expression. What the one refuses to parse is what the other fails
to solve for the same reason and in the same words, unless a digit of the text has no place value:
that is a failure to the solver, but the parsing service is interrupted. -/
namespace RootFinder.Service

open Expression (Valueless normalize parse)

variable {expression : String}

/-- The notice of what cannot be parsed. -/
theorem notice_unread {e : Expression.Error} (read : parse expression.toList = .error e) :
    (solve (.string expression)).notice? = some (Failure.expression e).notice := by
  have unread : Expression.parseJson (.string expression) = .error e := read
  rw [solve_unread unread]
  rfl

/-- Reports that an expression is empty or has a flaw. -/
def IsRefusal (notice : Notice) : Prop := notice.kind = .empty ∨ notice.kind = .invalid

theorem not_isRefusal_of_parsed {parsed : List Float} {notice : Notice}
    (read : parse expression.toList = .ok parsed)
    (failed : (solve (.string expression)).notice? = some notice) : ¬ IsRefusal notice := by
  have submitted : Expression.parseJson (.string expression) = .ok parsed := read
  have kind := kind_solve submitted failed
  unfold IsRefusal
  rw [kind]
  split <;> simp

/-- A bad request, if it is one that the solver reports as a failure of the text. -/
theorem parseExpression_refused {e : Expression.Error} (read : parse expression.toList = .error e)
    (refusal : IsRefusal (Failure.expression e).notice) :
    parseExpression expression = .ok (.badRequest e) := by
  unfold parseExpression
  rw [read]
  rcases refusal with kind | kind <;> simp only [kind]

/-- The detail of a bad request is the notice of the solver. -/
theorem body_badRequest {e : Expression.Error} (refusal : IsRefusal (Failure.expression e).notice) :
    (Reply.badRequest e).body = Reply.detail (.object
      [("error", .string (Failure.expression e).notice.message),
        ("error_kind", .string (Failure.expression e).notice.kind.name)]) := by
  cases e with
  | empty => rfl
  | invalid flaw position => rfl
  | noDecimal | noInteger | noText => rcases refusal with kind | kind <;> cases kind

/-- Of a text, only a digit without a place value is reported as an internal failure. -/
theorem refused_or_valueless {e : Expression.Error} (read : parse expression.toList = .error e) :
    IsRefusal (Failure.expression e).notice ∨
      ((Failure.expression e).notice.kind = .internal ∧
        ∃ c ∈ normalize expression.toList, Valueless c) := by
  rcases Expression.parse_blames read with ⟨-, rfl⟩ | ⟨-, blames⟩
  · exact .inl (.inl rfl)
  · cases e with
    | empty => cases blames
    | invalid flaw position => exact .inl (.inr rfl)
    | noDecimal numeral =>
      obtain ⟨c, -, inText, valueless⟩ := blames
      exact .inr ⟨rfl, c, inText, valueless⟩
    | noInteger digits =>
      obtain ⟨c, -, inText, valueless⟩ := blames
      exact .inr ⟨rfl, c, inText, valueless⟩
    | noText kind => cases blames

/-- The parsing service replies with coefficients or refuses an expression. It refuses exactly what
the solver reports as empty or flawed, with the error and the kind that the solver has. It is
interrupted only by an expression with a digit that has no place value, for which the solver reports
an internal failure. -/
theorem parse_reply (recording : Option Recording) (expression : String) :
    (∀ reply, (answer recording (Route.parse.submit expression)).outcome = .ok reply →
      (reply.status = 200 ∨ reply.status = 400) ∧
      (reply.status = 400 ↔
        ∃ notice, (solve (.string expression)).notice? = some notice ∧ IsRefusal notice) ∧
      (reply.status = 400 → ∃ notice, (solve (.string expression)).notice? = some notice ∧
        reply.body = Reply.detail (.object
          [("error", .string notice.message), ("error_kind", .string notice.kind.name)]))) ∧
    (∀ interruption,
      (answer recording (Route.parse.submit expression)).outcome = .error interruption →
        ∃ e notice, parse expression.toList = .error e ∧ interruption = .expression e ∧
          (solve (.string expression)).notice? = some notice ∧ notice.kind = .internal ∧
          ∃ c ∈ normalize expression.toList, Valueless c) := by
  rw [answer_parse]
  dsimp only
  cases read : parse expression.toList with
  | ok parsed =>
    unfold parseExpression
    rw [read]
    have good : 200 ≠ 400 := by decide
    constructor
    · rintro reply ⟨⟩
      refine ⟨.inl rfl, ⟨fun bad => absurd bad good, ?_⟩, fun bad => absurd bad good⟩
      rintro ⟨notice, failed, refusal⟩
      exact absurd refusal (not_isRefusal_of_parsed read failed)
    · rintro interruption ⟨⟩
  | error e =>
    have notice := notice_unread read
    rcases refused_or_valueless read with refusal | ⟨internal, valueless⟩
    · rw [parseExpression_refused read refusal]
      constructor
      · rintro reply ⟨⟩
        exact ⟨.inr rfl, ⟨fun _ => ⟨_, notice, refusal⟩, fun _ => rfl⟩,
          fun _ => ⟨_, notice, body_badRequest refusal⟩⟩
      · rintro interruption ⟨⟩
    · have interrupted : parseExpression expression = .error (.expression e) := by
        unfold parseExpression
        rw [read]
        simp only [internal]
      rw [interrupted]
      constructor
      · rintro reply ⟨⟩
      · rintro interruption ⟨⟩
        exact ⟨e, _, rfl, rfl, notice, internal, valueless⟩

/-- A superscript two, which is a digit without a place value, interrupts the parsing service, and
the solver reports neither an empty expression nor a flaw. -/
theorem superscript_interrupts :
    (answer none (Route.parse.submit "²")).outcome.isOk = false ∧
      ((solve (.string "²")).notice?.map fun notice => notice.kind) = some .internal := by
  decide +kernel

theorem not_always_replies : ¬ ∀ expression, ∃ reply,
    (answer none (Route.parse.submit expression)).outcome = .ok reply := by
  intro replies
  obtain ⟨reply, replied⟩ := replies "²"
  have interrupted := superscript_interrupts.1
  rw [replied] at interrupted
  cases interrupted

end RootFinder.Service
