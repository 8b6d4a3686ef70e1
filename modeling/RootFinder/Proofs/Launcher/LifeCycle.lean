import Mathlib
import RootFinder.Proofs.Launcher.Serving

/-! The life of a session, whatever the outside does: ports are freed before anything is started,
the page is started only after the service has been found healthy in time, and whatever still runs
in the end is terminated once. -/
namespace RootFinder.Launcher

section Courses

variable {script : Script} {installation : Installation} {settings : Settings} {r : Run}
  {events : List Event} {outcome : Except Interruption Int}

/-- An event that neither frees a port nor starts or ends a process. -/
def Quiet (event : Event) : Prop :=
  event.isCommand = false ∧ event.isStart = false ∧ ∀ process, event.terminates process = false

theorem OfWaiting.quiet {url : String} {event : Event} (h : OfWaiting url event) : Quiet event := by
  rcases h with rfl | rfl <;> exact ⟨rfl, rfl, fun _ => rfl⟩

theorem OfWatching.quiet {event : Event} (h : OfWatching event) : Quiet event := by
  rcases h with ⟨process, state, rfl⟩ | rfl <;> exact ⟨rfl, rfl, fun _ => rfl⟩

theorem testing_quiet (url : String) : Quiet (testing url) := ⟨rfl, rfl, fun _ => rfl⟩

theorem filter_quiet (quiet : ∀ e ∈ events, Quiet e) : events.filter Event.isStart = [] :=
  List.filter_eq_nil_iff.mpr fun e member => ne_true_of_eq_false (quiet e member).2.1

/-- Apart from the start of the page, nothing is done to ports or processes. -/
theorem Course.quiet (course : Course script installation settings r events outcome) :
    ∀ e ∈ events, e = pageStarted installation settings ∨ Quiet e := by
  have asked : Quiet (.get settings.health 2) := OfWaiting.quiet (.inl rfl)
  intro e member
  cases course with
  | late vainly => exact .inr (vainly.waiting e member).quiet
  | interrupted vainly early asleep =>
    rcases List.mem_append.mp member with vain | last
    · exact .inr (vainly.waiting e vain).quiet
    · have waiting : OfWaiting settings.health e := by simpa [OfWaiting] using last
      exact .inr waiting.quiet
  | failed reached =>
    rcases List.mem_append.mp member with vain | last
    · exact .inr (reached.vain.waiting e vain).quiet
    · rcases List.mem_pair.mp last with rfl | rfl
      · exact .inr asked
      · exact .inr (testing_quiet _)
  | watched reached watched =>
    rcases List.mem_append.mp member with vain | last
    · exact .inr (reached.vain.waiting e vain).quiet
    · rcases List.mem_cons.mp last with rfl | last
      · exact .inr asked
      · rcases List.mem_cons.mp last with rfl | last
        · exact .inr (testing_quiet _)
        · rcases List.mem_cons.mp last with rfl | last
          · exact .inl rfl
          · exact .inr (watched.watching e last).quiet

/-- The page is started after a request made in time has been answered well. -/
def PageAnswered (script : Script) (installation : Installation) (settings : Settings)
    (log : List Event) : Prop :=
  ∃ asked between after, log = asked ++ .get settings.health 2 ::
    (between ++ pageStarted installation settings :: after) ∧
      script.clockAfter 0 0 asked < patience ∧ script.answer (requests asked) = .status 200

theorem Reached.answered {vain : List Event} {r₁ : Run}
    (reached : Reached script settings r vain r₁) (begun : Begun r) :
    script.answer (requests vain) = .status 200 := by
  rw [← begun.asked reached.vain.after]
  exact reached.answer

theorem Reached.healthy {vain rest : List Event} {r₁ : Run}
    (reached : Reached script settings r vain r₁) (begun : Begun r) :
    Healthy script (vain ++ .get settings.health 2 :: rest) := by
  refine ⟨requests vain, ?_, reached.answered begun⟩
  simp [requests, Event.isRequest]

/-- When the service has been reached, it was not too late. -/
theorem Reached.not_late {vain : List Event} {r₁ : Run}
    (reached : Reached script settings r vain r₁) (begun : Begun r) :
    ¬ script.Late patience := by
  obtain ⟨onTime, before⟩ := reached.vain.scheduled begun
  refine Script.not_late before ?_ fun vain => vain.2.1 reached.answer
  rw [← onTime.clock]
  exact reached.early

theorem Course.starts (course : Course script installation settings r events outcome)
    (begun : Begun r) :
    events.filter Event.isStart = [] ∨
      (events.filter Event.isStart = [pageStarted installation settings] ∧
        PageAnswered script installation settings events) := by
  cases course with
  | late vainly => exact .inl (filter_quiet fun e member => (vainly.waiting e member).quiet)
  | interrupted vainly =>
    rw [List.filter_append, filter_quiet fun e member => (vainly.waiting e member).quiet]
    exact .inl rfl
  | failed reached =>
    rw [List.filter_append, filter_quiet fun e member => (reached.vain.waiting e member).quiet]
    exact .inl rfl
  | @watched vain _ reached watching _ _ watched =>
    have noMore : (pageStarted installation settings :: watching).filter Event.isStart =
        [pageStarted installation settings] :=
      congrArg _ (filter_quiet fun e member => (watched.watching e member).quiet)
    refine .inr ⟨?_, vain, [testing settings.baseUrl], watching, rfl, ?_, reached.answered begun⟩
    · rw [List.filter_append, filter_quiet fun e member => (reached.vain.waiting e member).quiet]
      exact noMore
    · rw [← begun.time reached.vain.after]
      exact reached.early

/-- The service has not become healthy in time, by the log and by the script. -/
structure TimedOut (script : Script) (log : List Event) : Prop where
  unhealthy : ¬ Healthy script log
  uninterrupted : ¬ Interrupted script log
  deadline : ¬ script.clockAfter 0 0 log < patience
  late : script.Late patience

/-- The service has become healthy, or the user has interrupted before it was too late. -/
structure InTime (script : Script) (log : List Event) : Prop where
  decided : Healthy script log ∨ Interrupted script log
  early : ¬ script.Late patience

/-- The exit code tells whether the service has become healthy in time. -/
theorem Course.decides (course : Course script installation settings r events outcome)
    (begun : Begun r) : (absorbed outcome = .ok 1 ∧ TimedOut script events) ∨
      (absorbed outcome ≠ .ok 1 ∧ InTime script events) := by
  cases course with
  | @late _ r₁ vainly late =>
    obtain ⟨onTime, before⟩ := vainly.scheduled begun
    have slept := begun.slept vainly.after
    refine .inl ⟨rfl, ?_, ?_, begun.time vainly.after ▸ late, r₁.requests, before, ?_⟩
    · rintro ⟨n, bound, answer⟩
      rw [← begun.asked vainly.after] at bound
      exact (before n bound).2.1 answer
    · rintro ⟨n, interrupt, positive, bound⟩
      exact vainly.awake n (begun.sleeps ▸ positive) (slept ▸ bound) interrupt
    · exact onTime.clock ▸ late
  | @interrupted vain r₁ vainly early asleep answer =>
    obtain ⟨⟨time, dozes⟩, before⟩ := vainly.scheduled begun
    refine .inr ⟨by simp [absorbed], .inr ⟨_, asleep, Nat.succ_pos _, ?_⟩, ?_⟩
    · rw [sleeps_append, begun.slept vainly.after]
      exact Nat.le_of_eq (by simp [Launcher.sleeps, Event.isSleep])
    · refine Script.not_late before (time ▸ early) ?_
      rintro ⟨-, -, awake⟩
      exact awake answer (dozes ▸ asleep)
  | @failed _ _ reached e =>
    refine .inr ⟨?_, .inl (reached.healthy begun), reached.not_late begun⟩
    cases e <;> simp [absorbed]
  | watched reached watched =>
    refine .inr ⟨?_, .inl (reached.healthy begun), reached.not_late begun⟩
    rcases watched.ends with rfl | ⟨rfl, -⟩ <;> simp [absorbed, Except.map]

theorem Course.code_le (course : Course script installation settings r events outcome) {code : Int}
    (returns : absorbed outcome = .ok code) : code = 0 ∨ code = 1 := by
  cases course with
  | late =>
    cases returns
    exact .inr rfl
  | interrupted =>
    cases returns
    exact .inl rfl
  | @failed _ _ _ e broken =>
    cases e with
    | keyboard => exact absurd broken (tested_ne_keyboard _)
    | misfit => cases returns
    | tooDeep => cases returns
  | watched _ watched =>
    left
    rcases watched.ends with rfl | ⟨rfl, -⟩ <;> cases returns <;> rfl

end Courses

section Timeless

/-- Neither a request nor a sleep: no time passes, and nothing of the script that counts them is
used. -/
def Timeless (log : List Event) : Prop := ∀ e ∈ log, e.isRequest = false ∧ e.isSleep = false

namespace Timeless

variable {log : List Event}

theorem requests (h : Timeless log) : Launcher.requests log = 0 :=
  List.countP_eq_zero.mpr fun e member => ne_true_of_eq_false (h e member).1

theorem sleeps (h : Timeless log) : Launcher.sleeps log = 0 :=
  List.countP_eq_zero.mpr fun e member => ne_true_of_eq_false (h e member).2

theorem clock (h : Timeless log) (script : Script) (asked : Nat) (clock : Float) :
    script.clockAfter asked clock log = clock := by
  induction log with
  | nil => rfl
  | cons event log ih =>
    obtain ⟨first, rest⟩ := List.forall_mem_cons.mp h
    refine Eq.trans ?_ (ih rest)
    cases event with
    | get => cases first.1
    | sleep => cases first.2
    | _ => rfl

end Timeless

variable {script : Script} {opening events closing : List Event}

theorem healthy_inside (before : Timeless opening) (after : Timeless closing) :
    Healthy script (opening ++ (events ++ closing)) ↔ Healthy script events := by
  have same : requests (opening ++ (events ++ closing)) = requests events := by
    rw [requests_append, requests_append, before.requests, after.requests, Nat.zero_add,
      Nat.add_zero]
  rw [Healthy, same, Healthy]

theorem interrupted_inside (before : Timeless opening) (after : Timeless closing) :
    Interrupted script (opening ++ (events ++ closing)) ↔ Interrupted script events := by
  have same : sleeps (opening ++ (events ++ closing)) = sleeps events := by
    rw [sleeps_append, sleeps_append, before.sleeps, after.sleeps, Nat.zero_add, Nat.add_zero]
  rw [Interrupted, same, Interrupted]

theorem clock_inside (before : Timeless opening) (after : Timeless closing) :
    script.clockAfter 0 0 (opening ++ (events ++ closing)) = script.clockAfter 0 0 events := by
  rw [clockAfter_append, clockAfter_append, before.clock, before.requests, after.clock]

theorem PageAnswered.inside {installation : Installation} {settings : Settings}
    (before : Timeless opening) (answered : PageAnswered script installation settings events) :
    PageAnswered script installation settings (opening ++ (events ++ closing)) := by
  obtain ⟨asked, between, after, rfl, early, good⟩ := answered
  refine ⟨opening ++ asked, between, after ++ closing, by simp, ?_, ?_⟩
  · rwa [clockAfter_append, before.clock, before.requests]
  · rwa [requests_append, before.requests, Nat.zero_add]

/-- An event of cleaning up. -/
theorem Closes.kinds {processes : List Nat} (closes : Closes processes closing) :
    ∀ e ∈ closing, e.isCommand = false ∧ e.isStart = false ∧ e.isRequest = false ∧
      e.isSleep = false := by
  induction closes with
  | nil => exact nofun
  | ended code _ ih => exact List.forall_mem_cons.mpr ⟨⟨rfl, rfl, rfl, rfl⟩, ih⟩
  | running _ ih =>
    exact List.forall_mem_cons.mpr ⟨⟨rfl, rfl, rfl, rfl⟩,
      List.forall_mem_cons.mpr ⟨⟨rfl, rfl, rfl, rfl⟩, ih⟩⟩

theorem Closes.timeless {processes : List Nat} (closes : Closes processes closing) :
    Timeless closing := fun e member => (closes.kinds e member).2.2

end Timeless

section Opening

variable {script : Script} {installation : Installation} {settings : Settings}

/-- A command is nothing else. -/
theorem Event.command_kinds {e : Event} (command : e.isCommand = true) :
    e.isStart = false ∧ (e.isRequest = false ∧ e.isSleep = false) ∧
      ∀ process, e.asks process = false ∧ e.terminates process = false := by
  cases e with
  | run arguments => exact ⟨rfl, ⟨rfl, rfl⟩, fun _ => ⟨rfl, rfl⟩⟩
  | _ => cases command

/-- What is done before the service is waited for. -/
def opening (script : Script) (installation : Installation) (settings : Settings) : List Event :=
  freeing script settings.servicePort ++
    (freeing script settings.pagePort ++ [serviceStarted installation settings])

theorem opening_kinds {e : Event} (member : e ∈ opening script installation settings) :
    e.isCommand = true ∨ e = serviceStarted installation settings := by
  rcases List.mem_append.mp member with first | rest
  · exact .inl (freeing_command first)
  · rcases List.mem_append.mp rest with second | last
    · exact .inl (freeing_command second)
    · exact .inr (List.eq_of_mem_singleton last)

theorem opening_timeless : Timeless (opening script installation settings) := by
  intro e member
  rcases opening_kinds member with command | rfl
  · exact (Event.command_kinds command).2.1
  · exact ⟨rfl, rfl⟩

theorem opening_process {e : Event} (member : e ∈ opening script installation settings)
    (process : Nat) : e.asks process = false ∧ e.terminates process = false := by
  rcases opening_kinds member with command | rfl
  · exact (Event.command_kinds command).2.2 process
  · exact ⟨rfl, rfl⟩

theorem opening_filter : (opening script installation settings).filter Event.isStart =
    [serviceStarted installation settings] := by
  have commands (port : Int) : (freeing script port).filter Event.isStart = [] := by
    refine List.filter_eq_nil_iff.mpr fun e member => ?_
    exact ne_true_of_eq_false (Event.command_kinds (freeing_command member)).1
  unfold opening
  rw [List.filter_append, List.filter_append, commands, commands]
  rfl

theorem opening_starts : starts (opening script installation settings) = 1 := by
  rw [starts, List.countP_eq_length_filter, opening_filter]
  rfl

end Opening

structure LifeCycle (script : Script) (installation : Installation) (settings : Settings)
    (result : Except Interruption Int) (log : List Event) : Prop where
  freed : ∃ rest, log = freeing script settings.servicePort ++
    (freeing script settings.pagePort ++ serviceStarted installation settings :: rest) ∧
      ∀ e ∈ rest, e.isCommand = false
  started : log.filter Event.isStart = [serviceStarted installation settings] ∨
    (log.filter Event.isStart =
      [serviceStarted installation settings, pageStarted installation settings] ∧
        PageAnswered script installation settings log)
  settled : ∀ process < starts log, Settled process log
  failed : result = .ok 1 ↔ ¬ Healthy script log ∧ ¬ Interrupted script log
  deadline : result = .ok 1 → ¬ script.clockAfter 0 0 log < patience
  late : result = .ok 1 ↔ script.Late patience
  code : ∀ code, result = .ok code → code = 0 ∨ code = 1

/-- Opening, a course and cleaning up make a life. -/
theorem Course.lifeCycle {script : Script} {installation : Installation} {settings : Settings}
    {r : Run} {events closing : List Event} {outcome : Except Interruption Int}
    (course : Course script installation settings r events outcome) (begun : Begun r)
    (closes : Closes (List.range (1 + Launcher.starts events)) closing) :
    LifeCycle script installation settings (absorbed outcome)
      (opening script installation settings ++ (events ++ closing)) where
  freed := by
    refine ⟨events ++ closing, by simp [opening], fun e member => ?_⟩
    rcases List.mem_append.mp member with early | late
    · rcases course.quiet e early with rfl | quiet
      · rfl
      · exact quiet.1
    · exact (closes.kinds e late).1
  started := by
    have ending : closing.filter Event.isStart = [] := List.filter_eq_nil_iff.mpr fun e member =>
      ne_true_of_eq_false (closes.kinds e member).2.1
    rw [List.filter_append, List.filter_append, opening_filter, ending, List.append_nil]
    rcases course.starts begun with none | ⟨page, answered⟩
    · rw [none]
      exact .inl rfl
    · rw [page]
      exact .inr ⟨rfl, answered.inside opening_timeless⟩
  settled := by
    intro process bound
    have closed : Launcher.starts closing = 0 := List.countP_eq_zero.mpr fun e member =>
      ne_true_of_eq_false (closes.kinds e member).2.1
    rw [starts_append, starts_append, opening_starts, closed] at bound
    rw [← List.append_assoc]
    refine closes.settled List.nodup_range (List.mem_range.mpr bound) _ ?_
    refine List.countP_eq_zero.mpr fun e member => ?_
    rcases List.mem_append.mp member with early | late
    · exact ne_true_of_eq_false (opening_process early process).2
    · rcases course.quiet e late with rfl | quiet
      · exact Bool.false_ne_true
      · exact ne_true_of_eq_false (quiet.2.2 process)
  failed := by
    rw [healthy_inside opening_timeless closes.timeless,
      interrupted_inside opening_timeless closes.timeless]
    rcases course.decides begun with ⟨code, out⟩ | ⟨code, healthy | interrupted, -⟩
    · exact iff_of_true code ⟨out.unhealthy, out.uninterrupted⟩
    · exact iff_of_false code fun none => none.1 healthy
    · exact iff_of_false code fun none => none.2 interrupted
  deadline := by
    rw [clock_inside opening_timeless closes.timeless]
    rcases course.decides begun with ⟨-, out⟩ | ⟨code, -⟩
    · exact fun _ => out.deadline
    · exact fun late => absurd late code
  late := by
    rcases course.decides begun with ⟨code, out⟩ | ⟨code, inTime⟩
    · exact iff_of_true code out.late
    · exact iff_of_false code inTime.early
  code := fun _ => course.code_le

/-- Before the service is waited for, no time passes. -/
theorem opening_yields (script : Script) (installation : Installation) (settings : Settings) :
    ∃ r, After script (Run.begin script) (opening script installation settings) r ∧
      ∀ {next : Session Int} {outcome events r'}, Yields script next r outcome events r' →
        Yields script (do
          freePort script settings.servicePort
          freePort script settings.pagePort
          start script installation settings "API"
            (serviceCommand installation settings.host settings.servicePort)
          next) (Run.begin script) outcome (opening script installation settings ++ events) r' := by
  obtain ⟨r₁, first⟩ := freePort_yields script settings.servicePort (Run.begin script)
  obtain ⟨r₂, second⟩ := freePort_yields script settings.pagePort r₁
  obtain ⟨r₃, begun⟩ := start_yields script r₂ installation settings "API"
    (serviceCommand installation settings.host settings.servicePort)
  refine ⟨r₃, first.after.trans (second.after.trans begun.after), fun rest => ?_⟩
  unfold opening
  rw [List.append_assoc, List.append_assoc]
  apply first.bind
  apply second.bind
  exact begun.bind rest

theorem rounds_patience (script : Script) :
    script.health.length + 151 < rounds script patience := by
  have seconds : (patience * 3).toUInt64.toNat = 180 := by decide +kernel
  rw [rounds, seconds]
  omega

/-- With enough rounds the session goes through a course and cleans up. -/
theorem launchWithin_course (script : Script) (installation : Installation) (settings : Settings) :
    ∃ r events outcome closing r', Begun r ∧
      Course script installation settings r events outcome ∧
      Closes (List.range (1 + starts events)) closing ∧ ∀ requests turns,
        Yields script (launchWithin
          ⟨(limits script).requests + requests, (limits script).turns + turns⟩ script installation
          settings) (Run.begin script) (absorbed outcome)
          (opening script installation settings ++ (events ++ closing)) r' := by
  obtain ⟨r, after, opens⟩ := opening_yields script installation settings
  have begun : Begun r := by
    constructor
    · rw [after.clock, opening_timeless.clock]
      rfl
    · rw [after.requests, opening_timeless.requests]
      rfl
    · rw [after.sleeps, opening_timeless.sleeps]
      rfl
  have left : r.polls.getD 0 [] = (script.processes.map Program.polls).getD 0 [] := by
    rw [after.polls, pollsAfter_of_absent fun e member => (opening_process member 0).1]
    rfl
  obtain ⟨events, outcome, r₁, course, serves⟩ :=
    @serve_course script installation settings (limits script) r begun (rounds_patience script)
      (Nat.lt_succ_of_le (congrArg List.length left).le)
  obtain ⟨r₂, caught⟩ := untilInterrupted_yields script outcome r₁
  obtain ⟨closing, r₃, closes, cleaned⟩ := cleanUp_yields script (List.range r₂.started) r₂
  have number : r₂.started = 1 + starts events := by
    rw [(caught (serves 0 0)).after.started, after.started, opening_starts]
    rfl
  rw [number] at closes
  refine ⟨r, events, outcome, closing, r₃, begun, course, closes,
    fun requests turns => ?_⟩
  refine opens ?_
  apply (lift_yields (caught (serves requests turns))).bind
  apply Yields.get_bind
  rw [← List.append_nil closing]
  apply cleaned.bind
  cases absorbed outcome with
  | ok code => exact .pure code r₃
  | error e => exact .throw e r₃

theorem launchWithin_yields (script : Script) (installation : Installation) (settings : Settings) :
    ∃ result log r', LifeCycle script installation settings result log ∧ ∀ requests turns,
      Yields script (launchWithin
        ⟨(limits script).requests + requests, (limits script).turns + turns⟩ script installation
        settings) (Run.begin script) result log r' := by
  obtain ⟨r, events, outcome, closing, r', begun, course, closes, yields⟩ :=
    launchWithin_course script installation settings
  exact ⟨_, _, r', course.lifeCycle begun closes, yields⟩

/-- A session comes to its end by itself, and its life is as it should be; and no request for health
is made when it is too late, however long the service is waited for. -/
theorem launch_lifeCycle (script : Script) (installation : Installation) (settings : Settings) :
    (∃ result r, (launch script installation settings).run (Run.begin script) = (result, r) ∧
      LifeCycle script installation settings result r.log ∧
      ∀ more : Limits, (limits script).requests ≤ more.requests →
        (limits script).turns ≤ more.turns →
        (launchWithin more script installation settings).run (Run.begin script) = (result, r)) ∧
    ∀ requests baseUrl timeout r, ∃ outcome events r',
      Yields script (waitWithin requests script baseUrl timeout) r outcome events r' ∧
        Punctual script r.requests r.clock (r.clock + timeout) events := by
  refine ⟨?_, fun requests => waitWithin_punctual requests script⟩
  obtain ⟨result, log, r, life, yields⟩ := launchWithin_yields script installation settings
  have logged : r.log = log := (yields 0 0).after.log
  refine ⟨result, r, (yields 0 0).1, logged ▸ life, fun more requests turns => ?_⟩
  obtain ⟨moreRequests, sameRequests⟩ := Nat.exists_eq_add_of_le requests
  obtain ⟨moreTurns, sameTurns⟩ := Nat.exists_eq_add_of_le turns
  have enough := (yields moreRequests moreTurns).1
  rwa [← sameRequests, ← sameTurns] at enough

end RootFinder.Launcher
