import Mathlib
import RootFinder.Proofs.Binary64.View
import RootFinder.Proofs.Json.Standard
import RootFinder.Proofs.Page.Showing
import RootFinder.Proofs.Polynomial.RoundTrip
import RootFinder.Proofs.Service.Requests
import RootFinder.Proofs.Solution.Shape
import RootFinder.Proofs.Solution.Stripping

/-! The page that a submitted expression leads to. It asks the service once, for the expression
without the blanks around it, and shows the solution of the expression: its failure in the words of
the solver, or its roots one by one. -/
namespace RootFinder.Page

open Json (memberOr)
open Text (strip)

/-- What the page reads from the document of a solution. -/
structure Reports (s : Solution) (members : List (String × Json)) : Prop where
  ok : memberOr "ok" (.bool false) members = .bool s.ok
  error : memberOr "error" .null members =
    optional (fun notice => .string notice.message) s.notice?
  trace : memberOr "trace" (.array []) members =
    (Json.array (s.trace.events.map Event.toJson)).standard
  formatted : memberOr "formatted" .null members = optional .string s.formatted?
  roots : demand "roots" members = .ok (.array (s.roots.map fun root => root.toJson.standard))
  steps : memberOr "steps" (.array []) members = .array (s.trace.notes.map .string)
  verification : memberOr "verification" .null members =
    (optional Verification.toJson (Service.checkOf s)).standard
  path : memberOr "trace_path" .null members = .null

theorem reports_document (s : Solution) : ∃ members,
    (s.document (Service.checkOf s) none).standard = .object members ∧ Reports s members := by
  have roots : Json.standardItems (s.roots.map Root.toJson) =
      s.roots.map fun root => root.toJson.standard := by
    rw [Json.standardItems_eq_map, List.map_map]
    rfl
  exact ⟨_, rfl, {
    ok := rfl
    error := by cases same : s.notice? <;> rfl
    trace := rfl
    formatted := by cases same : s.formatted? <;> rfl
    roots := congrArg (fun items => Except.ok (Json.array items)) roots
    steps := congrArg Json.array (Json.standardItems_strings s.trace.notes)
    verification := rfl
    path := rfl }⟩

section Showing

variable {s : Solution} {members : List (String × Json)}

def tracing (s : Solution) : List Element :=
  [.section "Trace", .code (Json.array (s.trace.events.map Event.toJson)).standard.pretty]

theorem shows_trace (reports : Reports s members) :
    Shows (traceSection members) (tracing s) (.ok ()) := by
  unfold traceSection tracing
  rw [reports.trace]
  exact Shows.put_bind (.put _)

/-- The page of a failure: the message of the solver, the trace, and an early end. -/
def failed (s : Solution) (notice : Notice) : List Element :=
  .error (.string notice.message) :: tracing s ++ [.stop]

theorem shows_failure {notice : Notice} (reports : Reports s members)
    (failure : s.notice? = some notice) (begun : notice.message ≠ "") :
    Shows (showFailure members) (failed s notice) (.error .stopped) := by
  have message : memberOr "error" .null members = .string notice.message := by
    rw [reports.error, failure]
    rfl
  have shown : (Json.string notice.message).isVoid = false := by
    simp [Json.isVoid, begun]
  unfold showFailure failed
  dsimp only
  rw [message, shown]
  exact Shows.put_bind ((shows_trace reports).bind .stop)

/-- A finite number is read back and shown as the root that it is. -/
theorem rootText_standard {root : Root Float} (reported : root.IsReported) :
    rootText root.toJson.standard = .ok (root.display places) := by
  have kept {x : Float} (finite : Binary64.isFinite x = true) :
      (Json.float x).standard = .float x := by
    rw [Json.standard, Binary64.isFinite_eq, if_pos finite]
  cases root with
  | real value =>
    rw [Root.toJson, kept reported.1]
    rfl
  | complex re im =>
    have members : (Root.complex re im).toJson.standard =
        .object [("re", .float re), ("im", .float im)] := by
      rw [Root.toJson, Json.standard, Json.standardMembers, Json.standardMembers,
        Json.standardMembers, kept reported.1.1, kept reported.2.1]
    have same : isZero (.float im) = Binary64.isZero im := Binary64.beq_zero im
    rw [members]
    change (if isZero (.float im) then _ else _) = _
    rw [same]
    cases zero : Binary64.isZero im with
    | true =>
      have shown : (Root.complex re im).display places = Decimal.fixed places re := by
        simp [Root.display, zero]
      rw [shown]
      rfl
    | false => rfl

def rootLine (root : Root Float) : Element := .line (bullet (root.display places))

theorem shows_roots {roots : List (Root Float)} (reported : ∀ root ∈ roots, root.IsReported) :
    Shows (showRoots (roots.map fun root => root.toJson.standard)) (roots.map rootLine)
      (.ok ()) := by
  induction roots with
  | nil => exact .pure ()
  | cons root rest ih =>
    obtain ⟨first, others⟩ := List.forall_mem_cons.mp reported
    exact Shows.check_bind (rootText_standard first) (Shows.put_bind (ih others))

/-- The check of a solution with roots is made, and counts them against the degree. -/
theorem checkOf_solved (ok : s.ok = true) (begun : s.coefficients ≠ []) :
    ∃ check, Service.checkOf s = some check ∧ check.found = s.roots.length ∧
      check.expected = s.coefficients.length - 1 ∧
      check.complete = (s.roots.length == s.coefficients.length - 1) := by
  unfold Service.checkOf
  rw [if_pos ok]
  cases same : s.coefficients with
  | nil => exact absurd same begun
  | cons first rest => exact ⟨_, rfl, rfl, rfl, rfl⟩

def missing (s : Solution) : List Element :=
  if s.roots.length = s.coefficients.length - 1 then []
  else [.info (s!"Found {s.roots.length} of {s.coefficients.length - 1} roots; "
    ++ "the numerical search does not report complex roots above degree 3.")]

theorem shows_missing (reports : Reports s members) (ok : s.ok = true)
    (begun : s.coefficients ≠ []) : Shows (showMissing members) (missing s) (.ok ()) := by
  obtain ⟨check, checked, found, expected, complete⟩ := checkOf_solved ok begun
  have remark : memberOr "verification" .null members = check.toJson.standard := by
    rw [reports.verification, checked]
    rfl
  unfold showMissing missing
  dsimp only
  rw [remark, if_pos (by rfl)]
  refine Shows.check_bind rfl ?_
  change Shows (if (!check.complete) = true then _ else _) _ _
  rw [complete]
  by_cases all : s.roots.length = s.coefficients.length - 1
  · rw [if_pos all, beq_iff_eq.mpr all]
    exact .pure ()
  · rw [if_neg all, beq_eq_false_iff_ne.mpr all, ← found, ← expected]
    exact Shows.check_bind rfl (Shows.check_bind rfl (.put _))

/-- The page of roots: the polynomial, a line for each root, a remark if some are missing, and the
steps with the trace. -/
def solved (s : Solution) : List Element :=
  .subheader "Results" ::
    .markdown ("**Polynomial:** `" ++ Polynomial.format s.coefficients ++ "`") ::
    .markdown "**Roots:**" ::
    (s.roots.map rootLine ++ (missing s ++
      (.subheader "Steps" :: .line ("\n".intercalate (s.trace.notes.map bullet)) :: tracing s)))

/-- The text of the polynomial is shown, and not what was entered. -/
theorem polynomial_shown (reports : Reports s members) (begun : s.coefficients ≠ [])
    (expression : String) :
    (if (memberOr "formatted" .null members).isVoid then expression
      else (memberOr "formatted" .null members).display) = Polynomial.format s.coefficients := by
  have text : memberOr "formatted" .null members = .string (Polynomial.format s.coefficients) := by
    rw [reports.formatted, Solution.formatted?, List.isEmpty_eq_false_iff.mpr begun]
    rfl
  have written : (Json.string (Polynomial.format s.coefficients)).isVoid = false := by
    simp [Json.isVoid, Polynomial.format, Polynomial.text_ne_nil begun]
  rw [text, written]
  rfl

theorem stepText_mapM (notes : List String) :
    (notes.map Json.string).mapM stepText = .ok (notes.map bullet) := by
  induction notes with
  | nil => rfl
  | cons note rest ih =>
    rw [List.map_cons, List.mapM_cons, ih]
    rfl

theorem shows_success (reports : Reports s members) (ok : s.ok = true)
    (begun : s.coefficients ≠ []) (reported : ∀ root ∈ s.roots, root.IsReported)
    (expression : String) : Shows (showSuccess expression members) (solved s) (.ok ()) := by
  unfold showSuccess solved
  dsimp only
  rw [polynomial_shown reports begun, reports.steps, reports.path]
  refine Shows.put_bind (Shows.put_bind (Shows.put_bind ?_))
  refine Shows.check_bind reports.roots (Shows.check_bind rfl ?_)
  refine (shows_roots reported).bind ((shows_missing reports ok begun).bind ?_)
  refine Shows.put_bind (Shows.check_bind rfl (Shows.check_bind (stepText_mapM _) ?_))
  refine Shows.put_bind ?_
  have traced := (shows_trace reports).bind (Shows.pure ())
  rw [List.append_nil] at traced
  exact traced

/-- A page that is shown and not broken off. -/
theorem run_of_shows {server : Json → Except Fault Response} {expression : String}
    {elements : List Element} {ending : Except Ending Unit}
    (page : Shows (submitted server expression) elements ending)
    (whole : ∀ fault, ending ≠ .error (.broken fault)) :
    run server true expression = (elements, none) := by
  unfold run
  rw [if_pos rfl, page [], List.nil_append]
  cases ending with
  | ok _ => rfl
  | error e =>
    cases e with
    | stopped => rfl
    | broken fault => exact absurd rfl (whole fault)

end Showing

/-- A solution has roots to be shown, or a message. -/
theorem solve_shown (submitted : Json) :
    ((solve submitted).ok = true ∧ (solve submitted).coefficients ≠ [] ∧
      ∀ root ∈ (solve submitted).roots, root.IsReported) ∨
    ((solve submitted).ok = false ∧ ∃ notice, (solve submitted).notice? = some notice ∧
      notice.message ≠ "") := by
  have outcome := solve_outcome submitted
  generalize solve submitted = s at outcome
  cases outcome with
  | unread => exact .inr ⟨rfl, _, rfl, message_ne_empty _⟩
  | unfound => exact .inr ⟨rfl, _, rfl, message_ne_empty _⟩
  | unpresented => exact .inr ⟨rfl, _, rfl, message_ne_empty _⟩
  | @solved parsed solver found rounded read find presented =>
    refine .inl ⟨rfl, ?_, (present_eq_ok presented).2.2⟩
    have long := two_le_of_select (findRoots_eq_ok find).1
    exact List.ne_nil_of_length_pos (Nat.lt_of_lt_of_le Nat.zero_lt_two long)

theorem response_ofService (expression : String) :
    ∃ text, Response.ofService (.object [("expression", .string expression)]) =
      .ok ⟨200, text, .ok ((solve (.string expression)).document
        (Service.checkOf (solve (.string expression))) none).standard⟩ := by
  have answered : Service.answer none
      ⟨"POST", "/solve", some (.object [("expression", .string expression)])⟩ =
        Service.solveExpression none expression := Service.answer_solve none expression
  unfold Response.ofService
  rw [answered]
  exact ⟨_, rfl⟩

theorem shows_blank {server : Json → Except Fault Response} {expression : String}
    (blank : strip expression.toList = []) :
    Shows (submitted server expression)
      [.warning "Please enter a polynomial expression", .stop] (.error .stopped) := by
  unfold submitted
  dsimp only
  rw [blank, if_pos (by rfl)]
  exact Shows.put_bind (.ended .stop)

/-- What is shown before the reply: the one request, without the blanks around the expression. -/
def asked (expression : String) : List Element :=
  [.progress "Solving...", .request (address ++ "/solve")
    (.object [("expression", .string (String.ofList (strip expression.toList)))])]

/-- What the page shows of the document of a solution follows the request. -/
theorem shows_asked {expression : String} {shown : List Element} {ending : Except Ending Unit}
    (begun : strip expression.toList ≠ [])
    (reply : ∀ text members, Reports (solve (.string expression)) members →
      Shows (showReply expression ⟨200, text, .ok (.object members)⟩) shown ending) :
    Shows (submitted Response.ofService expression) (asked expression ++ shown) ending := by
  have entered : (String.ofList (strip expression.toList)).isEmpty = false := by
    simp [begun]
  obtain ⟨text, response⟩ := response_ofService (String.ofList (strip expression.toList))
  obtain ⟨members, document, reports⟩ :=
    reports_document (solve (.string (String.ofList (strip expression.toList))))
  rw [document] at response
  -- the two solutions differ in what was submitted, which the page does not read
  rw [solve_strip] at reports
  have same : Reports (solve (.string expression)) members := { reports with }
  unfold submitted
  dsimp only
  rw [entered, if_neg Bool.false_ne_true]
  exact Shows.put_bind (Shows.put_bind (Shows.check_bind response (reply text members same)))

section Reply

variable {s : Solution} {members : List (String × Json)} (reports : Reports s members)
  (expression text : String)
include reports

theorem shows_reply {shown : List Element} {ending : Except Ending Unit}
    (rest : Shows (if (!s.ok) = true then showFailure members else showSuccess expression members)
      shown ending) :
    Shows (showReply expression ⟨200, text, .ok (.object members)⟩) shown ending := by
  unfold showReply
  dsimp only
  rw [if_neg (by decide)]
  refine Shows.check_bind rfl (Shows.check_bind rfl ?_)
  rw [reports.ok]
  exact rest

theorem shows_reply_failed {notice : Notice} (failure : s.notice? = some notice)
    (fails : s.ok = false) (message : notice.message ≠ "") :
    Shows (showReply expression ⟨200, text, .ok (.object members)⟩) (failed s notice)
      (.error .stopped) := by
  apply shows_reply reports
  rw [fails]
  exact shows_failure reports failure message

theorem shows_reply_solved (ok : s.ok = true) (begun : s.coefficients ≠ [])
    (reported : ∀ root ∈ s.roots, root.IsReported) :
    Shows (showReply expression ⟨200, text, .ok (.object members)⟩) (solved s) (.ok ()) := by
  apply shows_reply reports
  rw [ok]
  exact shows_success reports ok begun reported expression

end Reply

/-- A submitted form leads to a page that is not broken off. Without an expression it asks for one,
and stops. Otherwise it makes one request, for the expression without the blanks around it, and
shows the failure or the roots of the expression's solution. -/
theorem run_submitted (expression : String) :
    (run Response.ofService true expression).2 = none ∧
    (strip expression.toList = [] → (run Response.ofService true expression).1 =
      [.warning "Please enter a polynomial expression", .stop]) ∧
    (strip expression.toList ≠ [] → (solve (.string expression)).ok = false →
      ∃ notice, (solve (.string expression)).notice? = some notice ∧
        (run Response.ofService true expression).1 =
          asked expression ++ failed (solve (.string expression)) notice) ∧
    (strip expression.toList ≠ [] → (solve (.string expression)).ok = true →
      (run Response.ofService true expression).1 =
        asked expression ++ solved (solve (.string expression))) := by
  by_cases blank : strip expression.toList = []
  · have page : run Response.ofService true expression = (_, none) :=
      run_of_shows (shows_blank blank) (by rintro _ ⟨⟩)
    rw [page]
    exact ⟨rfl, fun _ => rfl, fun begun => absurd blank begun, fun begun => absurd blank begun⟩
  · rcases solve_shown (.string expression) with
      ⟨ok, begun, reported⟩ | ⟨fails, notice, failure, message⟩
    · have shown := shows_asked blank fun text members reports =>
        shows_reply_solved reports expression text ok begun reported
      rw [run_of_shows shown (by rintro _ ⟨⟩), ok]
      refine ⟨rfl, fun none => absurd none blank, ?_, fun _ _ => rfl⟩
      rintro _ ⟨⟩
    · have shown := shows_asked blank fun text members reports =>
        shows_reply_failed reports expression text failure fails message
      rw [run_of_shows shown (by rintro _ ⟨⟩), fails]
      refine ⟨rfl, fun none => absurd none blank, fun _ _ => ⟨notice, failure, rfl⟩, ?_⟩
      rintro _ ⟨⟩

end RootFinder.Page
