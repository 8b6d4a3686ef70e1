import Mathlib
import RootFinder.Proofs.Launcher.Waiting
import RootFinder.Proofs.Launcher.Watching

/-! The parts of a session and the courses that it can take between the start of the service and the
cleaning up: the service is late, the user interrupts, the test of the service breaks, or the page is
started and both are watched. -/
namespace RootFinder.Launcher

section Parts

/-- What is done to free a port: its owners are listed, and killed one by one. -/
def freeing (script : Script) (port : Int) : List Event :=
  match script.owners with
  | none => []
  | some outputs =>
    .run ["lsof", "-t", s!"-i:{port}"] ::
      (Text.words ((lookUp (toString port) outputs).getD "").toList).map fun word =>
        .run ["kill", "-9", String.ofList word]

theorem kill_yields (script : Script) (port : Int) (words : List (List Char)) (r : Run) :
    ∃ r', Yields script (words.forM fun word => do
        let owner := String.ofList word
        echo s!"Killing PID {owner} on port {port}"
        note (.run ["kill", "-9", owner])) r (.ok ())
      (words.map fun word => .run ["kill", "-9", String.ofList word]) r' := by
  induction words generalizing r with
  | nil => exact ⟨r, .pure () r⟩
  | cons word words ih =>
    obtain ⟨r₁, announced⟩ :=
      echo_yields script r s!"Killing PID {String.ofList word} on port {port}"
    obtain ⟨r₂, killed⟩ := run_yields script r₁ ["kill", "-9", String.ofList word]
    obtain ⟨r₃, others⟩ := ih r₂
    have one : Yields script (do
        let owner := String.ofList word
        echo s!"Killing PID {owner} on port {port}"
        note (.run ["kill", "-9", owner])) r (.ok ())
        [.run ["kill", "-9", String.ofList word]] r₂ := announced.silent_bind killed
    exact ⟨r₃, one.bind others⟩

theorem freePort_yields (script : Script) (port : Int) (r : Run) :
    ∃ r', Yields script (freePort script port) r (.ok ()) (freeing script port) r' := by
  unfold freePort freeing
  cases script.owners with
  | none => exact ⟨r, .pure () r⟩
  | some outputs =>
    obtain ⟨r₁, listed⟩ := run_yields script r ["lsof", "-t", s!"-i:{port}"]
    obtain ⟨r₂, killed⟩ :=
      kill_yields script port (Text.words ((lookUp (toString port) outputs).getD "").toList) r₁
    exact ⟨r₂, listed.bind killed⟩

theorem freeing_command {script : Script} {port : Int} {e : Event}
    (member : e ∈ freeing script port) : e.isCommand = true := by
  unfold freeing at member
  cases owners : script.owners with
  | none =>
    rw [owners] at member
    cases member
  | some outputs =>
    rw [owners] at member
    rcases List.mem_cons.mp member with rfl | kill
    · rfl
    · obtain ⟨word, -, rfl⟩ := List.mem_map.mp kill
      rfl

def testing (baseUrl : String) : Event :=
  .post (baseUrl ++ "/solve") (.object [("expression", .string Smoke.expression)]) 5

/-- What the smoke test comes to; without a reply it has failed. -/
def tested : Option String → Except Interruption Bool
  | none => .ok false
  | some text =>
    match Json.read text.toList with
    | .error e =>
      match e.problem with
      | .depth _ => .error (.tooDeep e)
      | _ => .ok false
    | .ok reply => (Smoke.verdict reply).mapError .misfit

/-- The smoke test makes its request, and comes to what the reply says. -/
theorem test_yields (script : Script) (baseUrl : String) (r : Run) : ∃ r',
    Yields script (Smoke.test script baseUrl) r (tested script.smoke) [testing baseUrl] r' := by
  obtain ⟨r₁, posted⟩ := post_yields script r (baseUrl ++ "/solve")
    (.object [("expression", .string Smoke.expression)]) 5
  have failing (message : String) : ∃ r₂, Yields script (do
      echo ("Smoke solve failed: " ++ message)
      pure false) r₁ (.ok false) [] r₂ := by
    obtain ⟨r₂, told⟩ := echo_yields script r₁ ("Smoke solve failed: " ++ message)
    exact ⟨r₂, told.silent_bind (.pure false r₂)⟩
  unfold Smoke.test tested
  cases script.smoke with
  | none =>
    obtain ⟨r₂, told⟩ := failing "refused"
    exact ⟨r₂, posted.bind told⟩
  | some text =>
    dsimp only
    cases Json.read text.toList with
    | error e =>
      dsimp only
      cases e.problem with
      | depth inArray => exact ⟨r₁, posted.bind (.throw (.tooDeep e) r₁)⟩
      | _ =>
        obtain ⟨r₂, told⟩ := failing e.message
        exact ⟨r₂, posted.bind told⟩
    | ok reply =>
      dsimp only
      cases Smoke.verdict reply with
      | ok passed => exact ⟨r₁, posted.bind (.pure passed r₁)⟩
      | error m => exact ⟨r₁, posted.bind (.throw (.misfit m) r₁)⟩

/-- The user does not interrupt the smoke test. -/
theorem tested_ne_keyboard (smoke : Option String) : tested smoke ≠ .error .keyboard := by
  unfold tested
  split
  · exact nofun
  · split
    · split <;> simp
    · cases Smoke.verdict _ <;> simp [Except.mapError]

/-- An interruption by the user becomes a regular end. -/
def absorbed : Except Interruption Int → Except Interruption Int
  | .error .keyboard => .ok 0
  | outcome => outcome

theorem run_untilInterrupted (session : Session Int) (r : Run) :
    (untilInterrupted session).run r =
      match session.run r with
      | (.error .keyboard, r₁) => (do
          echo "Shutting down..."
          pure 0 : Session Int).run r₁
      | other => other := by
  have same : session.run r = session r := rfl
  simp only [same, untilInterrupted, tryCatch, tryCatchThe, MonadExceptOf.tryCatch,
    ExceptT.tryCatch, ExceptT.run_mk, bind, StateT.bind]
  cases session r with
  | mk outcome r₁ =>
    cases outcome with
    | ok code => rfl
    | error e => cases e <;> rfl

theorem untilInterrupted_yields (script : Script) (outcome : Except Interruption Int) (r' : Run) :
    ∃ r'', ∀ {session r events}, Yields script session r outcome events r' →
      Yields script (untilInterrupted session) r (absorbed outcome) events r'' := by
  by_cases keyboard : outcome = .error .keyboard
  · subst keyboard
    obtain ⟨r'', told⟩ := echo_yields script r' "Shutting down..."
    refine ⟨r'', fun {session r events} yields => ⟨?_, ?_⟩⟩
    · rw [run_untilInterrupted, yields.1]
      exact (told.silent_bind (.pure (0 : Int) r'')).1
    · have after := yields.after.trans told.after
      rwa [List.append_nil] at after
  · refine ⟨r', fun {session r events} yields => ⟨?_, yields.after⟩⟩
    rw [run_untilInterrupted, yields.1]
    cases outcome with
    | ok code => rfl
    | error e =>
      cases e with
      | keyboard => exact absurd rfl keyboard
      | _ => rfl

/-- What a part comes to is looked at instead of passed on. -/
theorem lift_yields {script : Script} {session : Session Int} {r r' : Run}
    {outcome : Except Interruption Int} {events : List Event}
    (yields : Yields script session r outcome events r') :
    Yields script (ExceptT.lift session.run : Session (Except Interruption Int)) r (.ok outcome)
      events r' := by
  refine ⟨?_, yields.after⟩
  have run : (ExceptT.lift session.run : Session (Except Interruption Int)).run r =
      (.ok (session.run r).1, (session.run r).2) := rfl
  rw [run, yields.1]

end Parts

section Serving

variable {script : Script} {installation : Installation} {settings : Settings}

def serviceStarted (installation : Installation) (settings : Settings) : Event :=
  started installation settings (serviceCommand installation settings.host settings.servicePort)

def pageStarted (installation : Installation) (settings : Settings) : Event :=
  started installation settings
    (pageCommand installation settings.pagePort settings.pageAddress "true")

def Settings.health (settings : Settings) : String := settings.baseUrl ++ "/health"

/-- Waiting has come to a request that is answered well in time. -/
structure Reached (script : Script) (settings : Settings) (r : Run) (vain : List Event) (r₁ : Run) :
    Prop where
  vain : Vain script settings.health patience r vain r₁
  early : r₁.clock < patience
  answer : script.answer r₁.requests = .status 200

/-- What happens between the start of the service and the cleaning up. -/
inductive Course (script : Script) (installation : Installation) (settings : Settings) (r : Run) :
    List Event → Except Interruption Int → Prop
  | late {vain : List Event} {r₁ : Run} (vainly : Vain script settings.health patience r vain r₁)
      (late : ¬ r₁.clock < patience) : Course script installation settings r vain (.ok 1)
  | interrupted {vain : List Event} {r₁ : Run}
      (vainly : Vain script settings.health patience r vain r₁) (early : r₁.clock < patience)
      (asleep : script.interrupt = some (r₁.sleeps + 1))
      (answer : script.answer r₁.requests = .down) :
      Course script installation settings r (vain ++ [.get settings.health 2, .sleep 0.4])
        (.error .keyboard)
  | failed {vain : List Event} {r₁ : Run} (reached : Reached script settings r vain r₁)
      {e : Interruption} (broken : tested script.smoke = .error e) :
      Course script installation settings r
        (vain ++ [.get settings.health 2, testing settings.baseUrl]) (.error e)
  | watched {vain : List Event} {r₁ : Run} (reached : Reached script settings r vain r₁)
      {watching : List Event} {outcome : Except Interruption Unit} {r₂ : Run}
      (watched : Watched script outcome watching r₂) {passed : Bool}
      (verdict : tested script.smoke = .ok passed) :
      Course script installation settings r (vain ++ .get settings.health 2 ::
        testing settings.baseUrl :: pageStarted installation settings :: watching)
        (outcome.map fun _ => 0)

theorem OfWaiting.asks {url : String} {event : Event} (h : OfWaiting url event) (process : Nat) :
    event.asks process = false := by
  rcases h with rfl | rfl <;> rfl

/-- Once the service is healthy it is tested, the page is started, and both are watched. -/
theorem serve_healthy {r₁ r₂ : Run} (passed : Bool)
    (tested : Yields script (Smoke.test script settings.baseUrl) r₁ (.ok passed)
      [testing settings.baseUrl] r₂) :
    ∃ r₃, After script r₂ [pageStarted installation settings] r₃ ∧
      ∀ {requests turns r waiting outcome watching r₄},
        Yields script (waitWithin requests script settings.baseUrl patience) r (.ok true) waiting
          r₁ →
        Yields script (watch script [0, 1] turns) r₃ outcome watching r₄ →
        Yields script (serve ⟨requests, turns⟩ script installation settings) r
          (outcome.map fun _ => 0)
          (waiting ++ testing settings.baseUrl :: pageStarted installation settings :: watching)
          r₄ := by
  obtain ⟨r₃, told⟩ := echo_yields script r₂ (if passed
    then s!"/solve smoke test passed ({Smoke.expression})"
    else s!"/solve smoke test did not return {Json.displayFloats Smoke.roots} "
        ++ s!"for {Smoke.expression}")
  obtain ⟨r₄, begun⟩ := start_yields script r₃ installation settings "UI"
    (pageCommand installation settings.pagePort settings.pageAddress "true")
  obtain ⟨r₅, shown⟩ := echo_yields script r₄
    s!"UI: http://localhost:{settings.pagePort}  API docs: {settings.baseUrl}/docs"
  refine ⟨r₅, (told.after.trans begun.after).trans shown.after, ?_⟩
  intro requests turns r waiting outcome watching r₆ healthy watched
  have rest : Yields script (do
      start script installation settings "UI"
        (pageCommand installation settings.pagePort settings.pageAddress "true")
      echo s!"UI: http://localhost:{settings.pagePort}  API docs: {settings.baseUrl}/docs"
      watch script [0, 1] turns
      pure 0) r₃ (outcome.map fun _ => (0 : Int)) (pageStarted installation settings :: watching)
      r₆ := by
    cases outcome with
    | ok ended =>
      have closed : Yields script (do
          watch script [0, 1] turns
          pure 0) r₅ (.ok (0 : Int)) (watching ++ []) r₆ := by
        apply watched.bind
        exact .pure 0 r₆
      rw [List.append_nil] at closed
      exact begun.bind (shown.silent_bind closed)
    | error e => exact begun.bind (shown.silent_bind watched.broken)
  refine healthy.bind (tested.bind ?_)
  cases passed with
  | true => exact told.silent_bind rest
  | false => exact told.silent_bind rest

/-- Until the page is started, no process is asked for its state. -/
theorem Reached.polls {r r₁ r₂ : Run} {vain : List Event}
    (reached : Reached script settings r vain r₁)
    (after : After script r₁ [.get settings.health 2, testing settings.baseUrl,
      pageStarted installation settings] r₂) : r₂.polls.getD 0 [] = r.polls.getD 0 [] := by
  have others : ∀ e ∈ vain, e.asks 0 = false := fun e member =>
    (reached.vain.waiting e member).asks 0
  have starting : ∀ e ∈ [.get settings.health 2, testing settings.baseUrl,
      pageStarted installation settings], e.asks 0 = false := by
    simp [testing, pageStarted, Launcher.started, Event.asks]
  rw [after.polls, pollsAfter_of_absent starting, reached.vain.after.polls,
    pollsAfter_of_absent others]

theorem serve_course (script : Script) (installation : Installation) (settings : Settings)
    {limits : Limits} {r : Run} (begun : Begun r)
    (enough : script.health.length + 151 < limits.requests)
    (looks : (r.polls.getD 0 []).length < limits.turns) :
    ∃ events outcome r', Course script installation settings r events outcome ∧
      ∀ requests turns, Yields script (serve
        ⟨limits.requests + requests, limits.turns + turns⟩ script installation settings) r outcome
        events r' := by
  obtain ⟨vain, r₁, last, outcome, r₂, vainly, ends, waited⟩ :=
    @waitWithin_ends limits.requests script settings.baseUrl r begun enough
  cases ends with
  | late late =>
    obtain ⟨r₂, told⟩ := echo_yields script r₁ "API failed to become ready in time."
    refine ⟨vain, .ok 1, r₂, .late vainly late, fun requests turns => ?_⟩
    have waited := waited requests
    rw [List.append_nil] at waited
    rw [← List.append_nil vain]
    refine waited.bind ?_
    apply told.silent_bind
    exact .pure 1 r₂
  | interrupted early answer asleep after =>
    refine ⟨_, _, r₂, .interrupted vainly early asleep answer, fun requests turns => ?_⟩
    exact (waited requests).broken
  | healthy early answer after =>
    have reached : Reached script settings r vain r₁ := ⟨vainly, early, answer⟩
    obtain ⟨r₃, test⟩ := test_yields script settings.baseUrl r₂
    cases verdict : tested script.smoke with
    | error e =>
      rw [verdict] at test
      refine ⟨_, _, r₃, .failed reached verdict, fun requests turns => ?_⟩
      rw [List.append_cons]
      exact (waited requests).bind test.broken
    | ok passed =>
      rw [verdict] at test
      obtain ⟨r₄, starting, goes⟩ := serve_healthy passed test
      have left : r₄.polls.getD 0 [] = r.polls.getD 0 [] :=
        reached.polls ((after.trans test.after).trans starting)
      rw [← left] at looks
      obtain ⟨outcome, watching, r₅, watched, yields⟩ := watch_yields script limits.turns r₄ looks
      refine ⟨_, _, r₅, .watched reached watched verdict, fun requests turns => ?_⟩
      rw [List.append_cons]
      exact goes (waited requests) (yields turns)

end Serving

end RootFinder.Launcher
