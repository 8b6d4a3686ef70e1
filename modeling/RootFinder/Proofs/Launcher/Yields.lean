import Mathlib
import RootFinder.Proofs.Launcher.Log

/-! How a part of a session goes: from what has happened so far it comes to an end, good or bad, and
leaves some events. What is left of the script afterwards can be told from the events alone. -/
namespace RootFinder.Launcher

/-- The log and what is left of the script after some more events. -/
structure After (script : Script) (r : Run) (events : List Event) (r' : Run) : Prop where
  log : r'.log = r.log ++ events
  clock : r'.clock = script.clockAfter r.requests r.clock events
  requests : r'.requests = r.requests + requests events
  sleeps : r'.sleeps = r.sleeps + sleeps events
  started : r'.started = r.started + starts events
  polls : r'.polls = pollsAfter r.polls events

/-- The log with one event more, and what is left of the script then. -/
def Run.record (script : Script) (r : Run) (event : Event) : Run :=
  let logged := { r with log := r.log ++ [event] }
  match event with
  | .get _ _ =>
    { logged with clock := r.clock + script.lasting r.requests, requests := r.requests + 1 }
  | .sleep seconds => { logged with clock := r.clock + seconds, sleeps := r.sleeps + 1 }
  | .start _ _ _ _ => { logged with started := r.started + 1 }
  | .poll process _ => { logged with polls := r.polls.set process (r.polls.getD process []).tail }
  | _ => logged

namespace After

variable {script : Script} {r r' r'' : Run} {first second : List Event}

protected theorem refl (r : Run) : After script r [] r := by
  constructor <;>
    simp [Script.clockAfter, Launcher.requests, Launcher.sleeps, starts, pollsAfter]

protected theorem trans (before : After script r first r') (after : After script r' second r'') :
    After script r (first ++ second) r'' where
  log := by rw [after.log, before.log, List.append_assoc]
  clock := by rw [after.clock, before.clock, before.requests, clockAfter_append]
  requests := by rw [after.requests, before.requests, requests_append, Nat.add_assoc]
  sleeps := by rw [after.sleeps, before.sleeps, sleeps_append, Nat.add_assoc]
  started := by rw [after.started, before.started, starts_append, Nat.add_assoc]
  polls := by rw [after.polls, before.polls, pollsAfter_append]

theorem record (script : Script) (r : Run) (event : Event) :
    After script r [event] (r.record script event) := by
  cases event <;> constructor <;> simp [Run.record, Script.clockAfter, Launcher.requests,
    Event.isRequest, Launcher.sleeps, Event.isSleep, starts, Event.isStart, pollsAfter]

/-- What is printed does not count. -/
theorem printed (h : After script r first r') (text : String) :
    After script r first { r' with printed := text } :=
  ⟨h.log, h.clock, h.requests, h.sleeps, h.started, h.polls⟩

end After

/-- Nothing that takes time has happened. -/
structure Begun (r : Run) : Prop where
  clock : r.clock = 0
  requests : r.requests = 0
  sleeps : r.sleeps = 0

namespace Begun

variable {script : Script} {r r' : Run} {events : List Event}

theorem time (begun : Begun r) (after : After script r events r') :
    r'.clock = script.clockAfter 0 0 events := by
  rw [after.clock, begun.clock, begun.requests]

theorem asked (begun : Begun r) (after : After script r events r') :
    r'.requests = Launcher.requests events := by
  rw [after.requests, begun.requests, Nat.zero_add]

theorem slept (begun : Begun r) (after : After script r events r') :
    r'.sleeps = Launcher.sleeps events := by
  rw [after.sleeps, begun.sleeps, Nat.zero_add]

end Begun

/-- From `r` the session comes to this outcome in `r'`, and leaves these events. -/
def Yields {α : Type} (script : Script) (session : Session α) (r : Run)
    (outcome : Except Interruption α) (events : List Event) (r' : Run) : Prop :=
  session.run r = (outcome, r') ∧ After script r events r'

namespace Yields

variable {script : Script} {α β : Type} {session : Session α} {next : α → Session β} {r r₁ r₂ : Run}
  {first second : List Event} {a : α} {outcome : Except Interruption β}

theorem after {ended : Except Interruption α} (h : Yields script session r ended first r₁) :
    After script r first r₁ := h.2

protected theorem pure (a : α) (r : Run) : Yields script (pure a) r (.ok a) [] r := ⟨rfl, .refl r⟩

protected theorem throw (e : Interruption) (r : Run) :
    Yields script (throw e : Session α) r (.error e) [] r := ⟨rfl, .refl r⟩

theorem run_bind (session : Session α) (next : α → Session β) (r : Run) :
    (session >>= next).run r = ExceptT.bindCont next (session.run r).1 (session.run r).2 := rfl

protected theorem bind (start : Yields script session r (.ok a) first r₁)
    (rest : Yields script (next a) r₁ outcome second r₂) :
    Yields script (session >>= next) r outcome (first ++ second) r₂ := by
  refine ⟨?_, start.2.trans rest.2⟩
  rw [run_bind, start.1]
  exact rest.1

/-- Nothing follows an interruption. -/
protected theorem broken {e : Interruption} (start : Yields script session r (.error e) first r₁) :
    Yields script (session >>= next) r (.error e) first r₁ := by
  refine ⟨?_, start.2⟩
  rw [run_bind, start.1]
  rfl

/-- A part that leaves no events. -/
theorem silent_bind (start : Yields script session r (.ok a) [] r₁)
    (rest : Yields script (next a) r₁ outcome second r₂) :
    Yields script (session >>= next) r outcome second r₂ := start.bind rest

theorem get_bind {next : Run → Session β} (rest : Yields script (next r) r outcome second r₂) :
    Yields script (get >>= next) r outcome second r₂ := rest

end Yields

section Primitives

variable (script : Script) (r : Run)

theorem echo_yields (message : String) : ∃ r', Yields script (echo message) r (.ok ()) [] r' :=
  ⟨_, rfl, (After.refl r).printed _⟩

/-- The user interrupts just the sleep that the script says. -/
theorem sleep_yields (seconds : Float) :
    ∃ r', Yields script (sleep script seconds) r
      (if script.interrupt = some (r.sleeps + 1) then .error .keyboard else .ok ())
      [.sleep seconds] r' := by
  refine ⟨_, ?_, After.record script r (.sleep seconds)⟩
  have run : (sleep script seconds).run r =
      (if script.interrupt = some (r.sleeps + 1) then throw .keyboard else pure () :
        Session Unit).run (r.record script (.sleep seconds)) := rfl
  rw [run]
  split <;> rfl

theorem askHealth_yields (url : String) : ∃ r',
    Yields script (askHealth script url) r (.ok (script.answer r.requests)) [.get url 2] r' :=
  ⟨_, rfl, After.record script r (.get url 2)⟩

def started (installation : Installation) (settings : Settings) (command : List String) : Event :=
  .start command installation.root
    ((lookUp searchVariable (withSources installation settings.environment)).getD "")
    ((lookUp serviceVariable settings.environment).getD settings.baseUrl)

theorem start_yields (installation : Installation) (settings : Settings)
    (name : String) (command : List String) :
    ∃ r', Yields script (start script installation settings name command) r (.ok ())
      [started installation settings command] r' := by
  have recorded := After.record script r (started installation settings command)
  have run : (start script installation settings name command).run r =
      (relay script name r.started).run {
        r.record script (started installation settings command) with
        printed := r.printed ++
          ("[dev_up] " ++ (s!"Starting {name}: " ++ " ".intercalate command) ++ "\n") } := rfl
  unfold Yields
  rw [run, relay]
  cases script.processes[r.started]? with
  | none => exact ⟨_, rfl, recorded.printed _⟩
  | some process => exact ⟨_, rfl, recorded.printed _⟩

/-- The state that a process is in when it is asked next. -/
def Run.state (r : Run) (process : Nat) : Option Int := (r.polls.getD process []).headD (some 0)

theorem poll_yields (process : Nat) : ∃ r',
    Yields script (poll process) r (.ok (r.state process)) [.poll process (r.state process)] r' :=
  ⟨_, rfl, After.record script r (.poll process (r.state process))⟩

theorem terminate_yields (process : Nat) :
    ∃ r', Yields script (terminate process) r (.ok ()) [.terminate process] r' :=
  ⟨_, rfl, After.record script r (.terminate process)⟩

theorem run_yields (command : List String) :
    ∃ r', Yields script (note (.run command)) r (.ok ()) [.run command] r' :=
  ⟨_, rfl, After.record script r (.run command)⟩

theorem post_yields (url : String) (body : Json) (timeout : Nat) :
    ∃ r', Yields script (note (.post url body timeout)) r (.ok ()) [.post url body timeout] r' :=
  ⟨_, rfl, After.record script r (.post url body timeout)⟩

end Primitives

end RootFinder.Launcher
