import Mathlib
import RootFinder.Proofs.Json.Order
import RootFinder.Proofs.Launcher.LifeCycle

/-! The smoke test has a verdict on every reply that it can take apart and whose roots it can sort.
On the others it breaks, and the session with it: the page is not started although the service is
healthy. -/
namespace RootFinder.Launcher

open Json (Misfit Ordered items less memberOr ordered? same)

/-- The number one, of whatever kind; yes counts as one. -/
def IsOne (j : Json) : Prop := j = .int 1 ∨ j = .float 1 ∨ j = .bool true

def IsTwo (j : Json) : Prop := j = .int 2 ∨ j = .float 2

section Roots

variable {a b : Json} {found : List Json}

theorem same_one : same a (.float 1) = true ↔ IsOne a := by
  have size : Binary64.units Binary64.unitRank = 1 * Binary64.one := by decide +kernel
  have finite : Binary64.parts 1 = .finite false Binary64.unitRank := by decide +kernel
  simpa [IsOne] using Json.same_whole (a := a) Nat.one_pos finite size

theorem same_two : same a (.float 2) = true ↔ IsTwo a := by
  have size : Binary64.units (Binary64.unitRank + 2 ^ 52) = 2 * Binary64.one := by decide +kernel
  have finite : Binary64.parts 2 = .finite false (Binary64.unitRank + 2 ^ 52) := by decide +kernel
  simpa [IsTwo] using Json.same_whole (a := a) Nat.two_pos finite size

theorem same_roots : same (.array found) (.array (Smoke.roots.map .float)) = true ↔
    ∃ a b, found = [a, b] ∧ IsOne a ∧ IsTwo b := by
  simp only [Smoke.roots, List.map_cons, List.map_nil, same]
  match found with
  | [] | [_] => simp [Json.sameItems]
  | [a, b] => simp [Json.sameItems, same_one, same_two]
  | _ :: _ :: _ :: _ => simp [Json.sameItems]

theorem less_one_two (first : IsOne a) (second : IsTwo b) :
    less a b = .ok true ∧ less b a = .ok false := by
  rcases first with rfl | rfl | rfl <;> rcases second with rfl | rfl <;> decide +kernel

/-- One and two are found in either order. -/
theorem sort_roots : (∃ sorted, Sorting.sort less found = .ok sorted ∧
    same (.array sorted) (.array (Smoke.roots.map .float)) = true) ↔
      ∃ a b, found = [a, b] ∧ (IsOne a ∧ IsTwo b ∨ IsTwo a ∧ IsOne b) := by
  constructor
  · rintro ⟨sorted, sorts, roots⟩
    obtain ⟨a, b, rfl, one, two⟩ := same_roots.mp roots
    rcases List.perm_pair.mp (Sorting.sort_perm sorts).symm with rfl | rfl
    · exact ⟨a, b, rfl, .inl ⟨one, two⟩⟩
    · exact ⟨b, a, rfl, .inr ⟨two, one⟩⟩
  · rintro ⟨a, b, rfl, ⟨one, two⟩ | ⟨two, one⟩⟩
    · refine ⟨[a, b], ?_, same_roots.mpr ⟨a, b, rfl, one, two⟩⟩
      rw [Sorting.sort_pair, (less_one_two one two).2]
      rfl
    · refine ⟨[b, a], ?_, same_roots.mpr ⟨b, a, rfl, one, two⟩⟩
      rw [Sorting.sort_pair, (less_one_two one two).1]
      rfl

end Roots

section Verdict

variable {members : List (String × Json)} {found : List Json}

theorem verdict_unclaimed (other : Json.member? "ok" members ≠ some (.bool true)) :
    Smoke.verdict (.object members) = .ok false := by
  unfold Smoke.verdict
  simp only [Json.members, ok_bind]
  split
  · rename_i claimed
    unfold memberOr at claimed
    cases present : Json.member? "ok" members with
    | none =>
      rw [present] at claimed
      cases claimed
    | some j =>
      rw [present] at claimed other
      exact absurd (congrArg some claimed) other
  · rfl

/-- The roots of a reply that says it solved the quadratic are taken apart and sorted. -/
theorem verdict_claimed (claimed : Json.member? "ok" members = some (.bool true)) :
    Smoke.verdict (.object members) = (do
      let found ← (memberOr "roots" (.array []) members).items
      let sorted ← (Sorting.sort less found).mapError .unordered
      pure (same (.array sorted) (.array (Smoke.roots.map .float)))) := by
  have ok : memberOr "ok" .null members = .bool true := by
    rw [memberOr, claimed]
    rfl
  unfold Smoke.verdict
  simp only [Json.members, ok_bind, ok]

end Verdict

section Replies

variable {text : String} {reply j : Json} {smoke : Option String}

/-- A reply that says that it solved the quadratic, with these roots; none if it names none. -/
def Claims (text : String) (j : Json) : Prop :=
  ∃ members, Json.read text.toList = .ok (.object members) ∧
    Json.member? "ok" members = some (.bool true) ∧ memberOr "roots" (.array []) members = j

inductive Breaks (text : String) : Prop
  | deep {e : Json.ReadError} {inArray : Bool} (unread : Json.read text.toList = .error e)
      (depth : e.problem = .depth inArray)
  | noObject {reply : Json} (read : Json.read text.toList = .ok reply)
      (other : ∀ members, reply ≠ .object members)
  | noItems {j : Json} {m : Misfit} (claims : Claims text j) (none : j.items = .error m)
  | mixed {found : List Json} (claims : Claims text (.array found)) (several : 2 ≤ found.length)
      (mixed : ∀ kind, ∃ x ∈ found, ordered? x ≠ some kind)

/-- Replies on which it may break: lists as roots, of which two have no order. -/
def ListsUnordered (text : String) : Prop :=
  ∃ found, Claims text (.array found) ∧ (∀ x ∈ found, ordered? x = some .list) ∧
    ∃ x ∈ found, ∃ y ∈ found, ∃ pair, less x y = .error pair

theorem tested_read (read : Json.read text.toList = .ok reply) :
    tested (some text) = (Smoke.verdict reply).mapError .misfit := by
  simp only [tested, read]

theorem tested_claims (claims : Claims text j) : tested (some text) = (do
    let found ← j.items
    let sorted ← (Sorting.sort less found).mapError .unordered
    pure (same (.array sorted) (.array (Smoke.roots.map .float)))).mapError .misfit := by
  obtain ⟨members, read, claimed, rfl⟩ := claims
  rw [tested_read read, verdict_claimed claimed]

/-- A text and the names of an object are texts. -/
theorem items_number {found : List Json} (taken : j.items = .ok found) {x : Json}
    (member : x ∈ found) (other : ordered? x ≠ some .text) : j = .array found := by
  cases j with
  | array =>
    cases taken
    rfl
  | object members =>
    cases taken
    obtain ⟨m, -, rfl⟩ := List.mem_map.mp member
    exact absurd rfl other
  | string s =>
    cases taken
    obtain ⟨c, -, rfl⟩ := List.mem_map.mp member
    exact absurd rfl other
  | _ => cases taken

inductive Tests : Option String → Except Interruption Bool → Prop
  | unanswered : Tests none (.ok false)
  | unread {text : String} {e : Json.ReadError} (unread : Json.read text.toList = .error e) :
      Tests (some text) (.ok false)
  | deep {text : String} {e : Json.ReadError} {inArray : Bool}
      (unread : Json.read text.toList = .error e) (depth : e.problem = .depth inArray) :
      Tests (some text) (.error (.tooDeep e))
  | noObject {text : String} {reply : Json} {m : Misfit}
      (read : Json.read text.toList = .ok reply) (other : ∀ members, reply ≠ .object members) :
      Tests (some text) (.error (.misfit m))
  | unclaimed {text : String} : Tests (some text) (.ok false)
  | noItems {text : String} {j : Json} {m : Misfit} (claims : Claims text j)
      (none : j.items = .error m) : Tests (some text) (.error (.misfit m))
  | unordered {text : String} {j : Json} {found : List Json} {pair : Json.Unordered}
      (claims : Claims text j) (taken : j.items = .ok found)
      (refused : Sorting.sort less found = .error pair) :
      Tests (some text) (.error (.misfit (.unordered pair)))
  | sorted {text : String} {j : Json} {found sorted : List Json} (claims : Claims text j)
      (taken : j.items = .ok found) (sorts : Sorting.sort less found = .ok sorted) :
      Tests (some text) (.ok (same (.array sorted) (.array (Smoke.roots.map .float))))

theorem tests_claims (claims : Claims text j) : Tests (some text) (tested (some text)) := by
  rw [tested_claims claims]
  cases taken : j.items with
  | error m => exact .noItems claims taken
  | ok found =>
    cases sorts : Sorting.sort less found with
    | error pair =>
      simp only [ok_bind, sorts]
      exact .unordered claims taken sorts
    | ok sorted =>
      simp only [ok_bind, sorts]
      exact .sorted claims taken sorts

theorem tests (smoke : Option String) : Tests smoke (tested smoke) := by
  cases smoke with
  | none => exact .unanswered
  | some text =>
    cases read : Json.read text.toList with
    | error e =>
      simp only [tested, read]
      split
      · exact .deep read ‹_›
      · exact .unread read
    | ok reply =>
      cases reply with
      | object members =>
        by_cases claimed : Json.member? "ok" members = some (.bool true)
        · exact tests_claims ⟨members, read, claimed, rfl⟩
        · rw [tested_read read, verdict_unclaimed claimed]
          exact .unclaimed
      | _ =>
        rw [tested_read read]
        exact .noObject read nofun

/-- The test is passed by the replies that name one and two, in either order, and by no others. -/
theorem tested_true : tested smoke = .ok true ↔ ∃ text a b, smoke = some text ∧
    Claims text (.array [a, b]) ∧ (IsOne a ∧ IsTwo b ∨ IsTwo a ∧ IsOne b) := by
  constructor
  · intro passed
    have goes := tests smoke
    rw [passed] at goes
    generalize verdict : Except.ok true = outcome at goes
    cases goes with
    | sorted claims taken sorts =>
      obtain ⟨a, b, rfl, roots⟩ := sort_roots.mp ⟨_, sorts, (Except.ok.inj verdict).symm⟩
      have number : ordered? a ≠ some .text := by
        rcases roots with ⟨rfl | rfl | rfl, -⟩ | ⟨rfl | rfl, -⟩ <;> simp [ordered?]
      obtain rfl := items_number taken List.mem_cons_self number
      exact ⟨_, a, b, rfl, claims, roots⟩
    | _ => cases verdict
  · rintro ⟨text, a, b, rfl, claims, roots⟩
    obtain ⟨sorted, sorts, named⟩ := sort_roots.mpr ⟨a, b, rfl, roots⟩
    rw [tested_claims claims]
    simp only [items, ok_bind, sorts]
    exact congrArg Except.ok named

theorem tested_of_breaks (breaks : Breaks text) : ∃ e, tested (some text) = .error e := by
  cases breaks with
  | deep unread depth =>
    simp only [tested, unread, depth]
    exact ⟨_, rfl⟩
  | @noObject reply read other =>
    rw [tested_read read]
    cases reply with
    | object members => exact absurd rfl (other members)
    | _ => exact ⟨_, rfl⟩
  | noItems claims none =>
    rw [tested_claims claims, none]
    exact ⟨_, rfl⟩
  | @mixed found claims several mixed =>
    rw [tested_claims claims]
    cases sorts : Sorting.sort less found with
    | error pair =>
      simp only [items, ok_bind, sorts]
      exact ⟨_, rfl⟩
    | ok sorted =>
      match found with
      | [] | [_] => simp at several
      | x :: y :: rest =>
        obtain ⟨kind, all⟩ := Json.ordered_of_sort sorts
        obtain ⟨z, member, other⟩ := mixed kind
        exact absurd (all z member) other

/-- Items that cannot be sorted are several and of different kinds, or they are lists. -/
theorem breaks_of_unsorted {found : List Json} {pair : Json.Unordered} (claims : Claims text j)
    (taken : j.items = .ok found) (refused : Sorting.sort less found = .error pair) :
    Breaks text ∨ ListsUnordered text := by
  by_cases mixed : ∀ kind, ∃ z ∈ found, ordered? z ≠ some kind
  · obtain ⟨z, member, other⟩ := mixed .text
    obtain rfl := items_number taken member other
    refine .inl (.mixed claims ?_ mixed)
    match found with
    | [] => cases member
    | [x] =>
      rw [Sorting.sort_single] at refused
      cases refused
    | _ :: _ :: rest => exact Nat.le_add_left 2 rest.length
  · -- of one kind: then it is a kind whose values are not always compared
    simp only [not_forall, not_exists, not_and, not_not] at mixed
    obtain ⟨kind, all⟩ := mixed
    obtain ⟨x, first, y, second, unordered⟩ := Sorting.sort_error refused
    by_cases flat : kind = .list
    · subst flat
      have other : ordered? x ≠ some .text := by simp [all x first]
      obtain rfl := items_number taken first other
      exact .inr ⟨found, claims, all, x, first, y, second, pair, unordered⟩
    · obtain ⟨sorted, sorts⟩ := Json.sort_flat flat all
      rw [refused] at sorts
      cases sorts

theorem breaks_of_tested {e : Interruption} (fails : tested smoke = .error e) :
    ∃ text, smoke = some text ∧ (Breaks text ∨ ListsUnordered text) := by
  have goes := tests smoke
  rw [fails] at goes
  generalize verdict : Except.error e = outcome at goes
  cases goes with
  | deep unread depth => exact ⟨_, rfl, .inl (.deep unread depth)⟩
  | noObject read other => exact ⟨_, rfl, .inl (.noObject read other)⟩
  | noItems claims none => exact ⟨_, rfl, .inl (.noItems claims none)⟩
  | unordered claims taken refused => exact ⟨_, rfl, breaks_of_unsorted claims taken refused⟩
  | _ => cases verdict

end Replies

section Session

variable {script : Script} {installation : Installation} {settings : Settings}

/-- Where the service has been healthy, the course is that of a test that broke or of a page that was
started. -/
theorem Course.tested {r : Run} {events : List Event} {outcome : Except Interruption Int}
    (course : Course script installation settings r events outcome)
    (begun : Begun r) (healthy : Healthy script events) :
    (∃ e, tested script.smoke = .error e ∧ outcome = .error e ∧
        ∀ event ∈ events, event.isStart = false) ∨
      ∃ passed, tested script.smoke = .ok passed ∧ pageStarted installation settings ∈ events := by
  obtain ⟨n, bound, answer⟩ := healthy
  cases course with
  | late vainly =>
    rw [← begun.asked vainly.after] at bound
    exact absurd answer ((vainly.scheduled begun).2 n bound).2.1
  | @interrupted vain r₁ vainly early asleep down =>
    have last : requests (vain ++ [.get settings.health 2, .sleep 0.4]) = requests vain + 1 := by
      rw [requests_append]
      rfl
    rw [last, ← begun.asked vainly.after] at bound
    rcases Nat.lt_succ_iff_lt_or_eq.mp bound with before | rfl
    · exact absurd answer ((vainly.scheduled begun).2 n before).2.1
    · -- the last request found the service down, or the user would not have been waiting
      rw [down] at answer
      cases answer
  | failed reached broken =>
    refine .inl ⟨_, broken, rfl, fun event member => ?_⟩
    rcases List.mem_append.mp member with vain | last
    · exact (reached.vain.waiting event vain).quiet.2.1
    · rcases List.mem_pair.mp last with rfl | rfl <;> rfl
  | watched reached watched verdict => exact .inr ⟨_, verdict, by simp⟩

theorem page_ne_service :
    pageStarted installation settings ≠ serviceStarted installation settings := by
  simp [pageStarted, serviceStarted, started, pageCommand, serviceCommand]

/-- Once the service is healthy the page is started if the test has a verdict; if it breaks, so does
the session. -/
theorem launch_tested (script : Script) (installation : Installation) (settings : Settings) :
    ∃ result r, (launch script installation settings).run (Run.begin script) = (result, r) ∧
      (Healthy script r.log →
        (pageStarted installation settings ∈ r.log ↔ ∃ passed, tested script.smoke = .ok passed) ∧
          ∀ e, tested script.smoke = .error e → result = .error e) := by
  obtain ⟨r, events, outcome, closing, r', begun, course, closes, yields⟩ :=
    launchWithin_course script installation settings
  have log : r'.log = opening script installation settings ++ (events ++ closing) :=
    (yields 0 0).after.log
  refine ⟨_, r', (yields 0 0).1, fun healthy => ?_⟩
  rw [log] at healthy ⊢
  have inside := (healthy_inside opening_timeless closes.timeless).mp healthy
  rcases course.tested begun inside with ⟨e, broken, rfl, quiet⟩ | ⟨passed, verdict, started⟩
  · have absent : pageStarted installation settings ∉
        opening script installation settings ++ (events ++ closing) := by
      intro member
      rcases List.mem_append.mp member with early | later
      · rcases opening_kinds early with command | service
        · cases command
        · exact page_ne_service service
      · rcases List.mem_append.mp later with inner | last
        · cases quiet _ inner
        · cases (closes.kinds _ last).2.1
    refine ⟨iff_of_false absent ?_, ?_⟩
    · rintro ⟨passed, verdict⟩
      rw [broken] at verdict
      cases verdict
    · intro e' same
      rw [broken] at same
      cases same
      cases e with
      | keyboard => exact absurd broken (tested_ne_keyboard _)
      | misfit | tooDeep => rfl
  · refine ⟨iff_of_true (by simp [started]) ⟨passed, verdict⟩, fun e broken => ?_⟩
    rw [verdict] at broken
    cases broken

end Session

/-- The verdict of the smoke test. It is the same wherever and whenever the test is made. The test is
passed just by the replies that claim one and two as roots, in either order. It breaks on a reply that
is too deep, is no object, or claims roots that cannot be taken apart or are of several kinds, and
otherwise at most on lists that cannot be compared; where it does not break, and nowhere else, a
session with a healthy service goes on to start the page. -/
theorem test_verdict (script : Script) : ∃ outcome : Except Interruption Bool,
    (∀ baseUrl r, ((Smoke.test script baseUrl).run r).1 = outcome) ∧
    (outcome = .ok true ↔ ∃ text a b, script.smoke = some text ∧ Claims text (.array [a, b]) ∧
      (IsOne a ∧ IsTwo b ∨ IsTwo a ∧ IsOne b)) ∧
    (∀ text, script.smoke = some text → Breaks text → ∃ e, outcome = .error e) ∧
    (∀ e, outcome = .error e → ∃ text, script.smoke = some text ∧
      (Breaks text ∨ ListsUnordered text)) ∧
    ∀ installation settings, ∃ result r,
      (launch script installation settings).run (Run.begin script) = (result, r) ∧
      (Healthy script r.log →
        (pageStarted installation settings ∈ r.log ↔ ∃ passed, outcome = .ok passed) ∧
          ∀ e, outcome = .error e → result = .error e) := by
  refine ⟨tested script.smoke, ?_, tested_true, ?_, fun e => breaks_of_tested,
    launch_tested script⟩
  · intro baseUrl r
    obtain ⟨r', yields⟩ := test_yields script baseUrl r
    rw [yields.1]
  · intro text reply breaks
    rw [reply]
    exact tested_of_breaks breaks

/-- A script in which the service only answers the test. -/
def Script.answering (reply : String) : Script :=
  ⟨[], ⟨0, by decide +kernel⟩, some reply, none, [], none⟩

/-- A reply that claims two and one, of different kinds. -/
theorem test_verdict_turned :
    let text := "\x7b\"ok\": true, \"roots\": [2, 1.0]\x7d"
    ((Smoke.test (.answering text) "").run (Run.begin (.answering text))).1 = .ok true ∧
      ∃ a b, Claims text (.array [a, b]) ∧ (IsOne a ∧ IsTwo b ∨ IsTwo a ∧ IsOne b) := by
  intro text
  obtain ⟨outcome, same, passed, -⟩ := test_verdict (.answering text)
  have run : ((Smoke.test (.answering text) "").run (Run.begin (.answering text))).1 = .ok true := by
    decide +kernel
  obtain ⟨_, a, b, reply, claims⟩ := passed.mp ((same _ _).symm.trans run)
  obtain rfl := Option.some.inj reply
  exact ⟨run, a, b, claims⟩

/-- The test has no verdict on every reply: on one that is a value but no object it breaks. -/
theorem not_always_verdict : ¬ ∀ (script : Script) (baseUrl : String) (r : Run),
    ∃ passed, ((Smoke.test script baseUrl).run r).1 = .ok passed := by
  intro always
  obtain ⟨passed, verdict⟩ := always (.answering "null") "" (Run.begin (.answering "null"))
  have broken : ((Smoke.test (.answering "null") "").run (Run.begin (.answering "null"))).1 =
      .error (.misfit (.noMembers "NoneType")) := by decide +kernel
  rw [broken] at verdict
  cases verdict

end RootFinder.Launcher
