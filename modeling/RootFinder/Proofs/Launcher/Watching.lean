import Mathlib
import RootFinder.Proofs.Launcher.Yields

/-! Watching the processes until one has ended, and cleaning up. Every look at a process takes one of
its states, so watching comes to an end; cleaning up asks every process once more, and terminates it
just when it still runs. -/
namespace RootFinder.Launcher

section Watching

def OfWatching (event : Event) : Prop := (∃ process state, event = .poll process state) ∨
  event = .sleep 0.5

/-- Nothing is taken from a process that is not asked. -/
theorem pollsAfter_of_absent {process : Nat} {events : List Event}
    (absent : ∀ e ∈ events, e.asks process = false) (polls : List (List (Option Int))) :
    (pollsAfter polls events).getD process [] = polls.getD process [] := by
  induction events generalizing polls with
  | nil => rfl
  | cons event events ih =>
    obtain ⟨first, others⟩ := List.forall_mem_cons.mp absent
    have rest := ih others (pollsAfter polls [event])
    rw [← pollsAfter_append] at rest
    refine rest.trans ?_
    cases event with
    | poll p state =>
      have other : p ≠ process := by
        rintro rfl
        simp [Event.asks] at first
      simp [pollsAfter, List.getD_eq_getElem?_getD, List.getElem?_set_ne other]
    | _ => rfl

/-- A process that runs has had one of its states taken when it has been asked. -/
theorem polls_shorter {r : Run} {process : Nat} (runs : r.state process = none)
    {others : List Event} (absent : ∀ e ∈ others, e.asks process = false) :
    ((pollsAfter r.polls (.poll process none :: others)).getD process []).length <
      (r.polls.getD process []).length := by
  have split : pollsAfter r.polls (.poll process none :: others) =
      pollsAfter (r.polls.set process (r.polls.getD process []).tail) others := rfl
  rw [split, pollsAfter_of_absent absent]
  unfold Run.state at runs
  cases states : r.polls.getD process [] with
  | nil =>
    rw [states] at runs
    cases runs
  | cons state rest =>
    have inside : process < r.polls.length := by
      by_contra outside
      rw [List.getD_eq_default _ _ (Nat.not_lt.mp outside)] at states
      cases states
    simp [List.getD_eq_getElem?_getD, inside]

/-- All run only if each was asked and runs. -/
theorem allRun_yields (script : Script) (processes : List Nat) (r : Run) : ∃ alive events r',
    Yields script (allRun processes) r (.ok alive) events r' ∧ (∀ e ∈ events, OfWatching e) ∧
      (alive = true → events = processes.map (Event.poll · none) ∧
        ∀ process ∈ processes.head?, r.state process = none) := by
  induction processes generalizing r with
  | nil => exact ⟨true, [], r, .pure true r, nofun, fun _ => ⟨rfl, nofun⟩⟩
  | cons process rest ih =>
    obtain ⟨r₁, asked⟩ := poll_yields script r process
    have look : OfWatching (.poll process (r.state process)) := .inl ⟨_, _, rfl⟩
    cases state : r.state process with
    | none =>
      rw [state] at asked look
      obtain ⟨alive, events, r₂, yields, watching, all⟩ := ih r₁
      refine ⟨alive, .poll process none :: events, r₂, asked.bind yields,
        List.forall_mem_cons.mpr ⟨look, watching⟩, fun running => ⟨?_, ?_⟩⟩
      · rw [(all running).1]
        rfl
      · rintro _ ⟨⟩
        exact state
    | some code =>
      rw [state] at asked look
      refine ⟨false, [.poll process (some code)], r₁, asked.bind (.pure false r₁), ?_, nofun⟩
      exact List.forall_mem_singleton.mpr look

/-- How watching ends: well, or because the user interrupts. -/
structure Watched (script : Script) (outcome : Except Interruption Unit) (events : List Event)
    (r' : Run) : Prop where
  watching : ∀ e ∈ events, OfWatching e
  ends : outcome = .ok () ∨
    (outcome = .error .keyboard ∧ script.interrupt = some r'.sleeps ∧ 0 < r'.sleeps)

/-- Watching ends as soon as the service has no states left, also with more fuel. -/
theorem watch_yields (script : Script) (fuel : Nat) (r : Run)
    (enough : (r.polls.getD 0 []).length < fuel) : ∃ outcome events r',
      Watched script outcome events r' ∧
        ∀ more, Yields script (watch script [0, 1] (fuel + more)) r outcome events r' := by
  induction fuel generalizing r with
  | zero => cases enough
  | succ fuel ih =>
    obtain ⟨alive, looks, r₁, asked, watching, all⟩ := allRun_yields script [0, 1] r
    cases alive with
    | false =>
      refine ⟨.ok (), looks, r₁, ⟨watching, .inl rfl⟩, fun more => ?_⟩
      rw [Nat.add_right_comm, watch, ← List.append_nil looks]
      exact asked.bind (.pure () r₁)
    | true =>
      obtain ⟨rfl, runs⟩ := all rfl
      obtain ⟨r₂, slept⟩ := sleep_yields script r₁ 0.5
      have pause : OfWatching (.sleep 0.5) := .inr rfl
      have round : ∀ e ∈ [0, 1].map (Event.poll · none) ++ [Event.sleep 0.5], OfWatching e := by
        intro e member
        rcases List.mem_append.mp member with look | sleep
        · exact watching e look
        · exact List.eq_of_mem_singleton sleep ▸ pause
      have sleeps : r₂.sleeps = r₁.sleeps + 1 := slept.after.sleeps
      by_cases asleep : script.interrupt = some (r₁.sleeps + 1)
      · rw [if_pos asleep] at slept
        refine ⟨.error .keyboard, _, r₂, ⟨round, .inr ⟨rfl, ?_, by omega⟩⟩, fun more => ?_⟩
        · rw [asleep, sleeps]
        · rw [Nat.add_right_comm, watch]
          exact asked.bind slept.broken
      · rw [if_neg asleep] at slept
        have other : ∀ e ∈ [Event.poll 1 none], e.asks 0 = false := by simp [Event.asks]
        have shorter := polls_shorter (runs 0 rfl) other
        have left : r₂.polls = pollsAfter r.polls [.poll 0 none, .poll 1 none] :=
          slept.after.polls.trans asked.after.polls
        rw [← left] at shorter
        obtain ⟨outcome, events, r₃, watched, yields⟩ := ih r₂ (by omega)
        refine ⟨outcome, [0, 1].map (Event.poll · none) ++ [.sleep 0.5] ++ events, r₃,
          ⟨?_, watched.ends⟩, fun more => ?_⟩
        · intro e member
          rcases List.mem_append.mp member with early | late
          · exact round e early
          · exact watched.watching e late
        · rw [Nat.add_right_comm, watch, List.append_assoc]
          exact asked.bind (slept.bind (yields more))

end Watching

section Closing

inductive Closes : List Nat → List Event → Prop
  | nil : Closes [] []
  | ended {process : Nat} {rest : List Nat} {events : List Event} (code : Int)
      (others : Closes rest events) :
      Closes (process :: rest) (.poll process (some code) :: events)
  | running {process : Nat} {rest : List Nat} {events : List Event}
      (others : Closes rest events) :
      Closes (process :: rest) (.poll process none :: .terminate process :: events)

theorem cleanUp_yields (script : Script) (processes : List Nat) (r : Run) : ∃ events r',
    Closes processes events ∧ Yields script (cleanUp processes) r (.ok ()) events r' := by
  induction processes generalizing r with
  | nil => exact ⟨[], r, .nil, .pure () r⟩
  | cons process rest ih =>
    obtain ⟨r₁, asked⟩ := poll_yields script r process
    cases state : r.state process with
    | none =>
      rw [state] at asked
      obtain ⟨r₂, terminated⟩ := terminate_yields script r₁ process
      obtain ⟨events, r₃, closes, yields⟩ := ih r₂
      exact ⟨_, r₃, .running closes, asked.bind (terminated.bind yields)⟩
    | some code =>
      rw [state] at asked
      obtain ⟨events, r₂, closes, yields⟩ := ih r₁
      exact ⟨_, r₂, .ended code closes, asked.bind yields⟩

/-- The last look at the process in the log shows that it has ended, and then it is never
terminated; or that it runs, and then it is terminated afterwards, and only once. -/
def Settled (process : Nat) (log : List Event) : Prop :=
  ∃ before state after, log = before ++ .poll process state :: after ∧
    after.countP (Event.asks process) = 0 ∧ before.countP (Event.terminates process) = 0 ∧
    after.countP (Event.terminates process) = if state = none then 1 else 0

/-- Cleaning up does not touch other processes. -/
theorem Closes.others {processes : List Nat} {events : List Event}
    (closes : Closes processes events) {process : Nat} (absent : process ∉ processes) :
    events.countP (Event.asks process) = 0 ∧ events.countP (Event.terminates process) = 0 := by
  induction closes with
  | nil => exact ⟨rfl, rfl⟩
  | @ended other rest events code _ ih =>
    rw [List.mem_cons, not_or] at absent
    obtain ⟨apart, outside⟩ := absent
    have distinct : other ≠ process := fun same => apart same.symm
    simpa [Event.asks, Event.terminates, distinct] using ih outside
  | @running other rest events _ ih =>
    rw [List.mem_cons, not_or] at absent
    obtain ⟨apart, outside⟩ := absent
    have distinct : other ≠ process := fun same => apart same.symm
    simpa [Event.asks, Event.terminates, distinct] using ih outside

/-- After the cleaning up, every process is settled. -/
theorem Closes.settled {processes : List Nat} {closing : List Event}
    (closes : Closes processes closing) (apart : processes.Nodup) {process : Nat}
    (member : process ∈ processes) (before : List Event)
    (untouched : before.countP (Event.terminates process) = 0) :
    Settled process (before ++ closing) := by
  induction closes generalizing before with
  | nil => cases member
  | @ended other rest events code closes ih =>
    obtain ⟨fresh, apart⟩ := List.nodup_cons.mp apart
    rcases List.mem_cons.mp member with rfl | later
    · obtain ⟨noLook, noEnd⟩ := closes.others fresh
      exact ⟨before, some code, events, rfl, noLook, untouched, noEnd⟩
    · have settled := ih apart later (before ++ [.poll other (some code)])
        (by simpa [Event.terminates] using untouched)
      rwa [List.append_assoc] at settled
  | @running other rest events closes ih =>
    obtain ⟨fresh, apart⟩ := List.nodup_cons.mp apart
    rcases List.mem_cons.mp member with rfl | later
    · obtain ⟨noLook, noEnd⟩ := closes.others fresh
      refine ⟨before, none, .terminate process :: events, rfl, ?_, untouched, ?_⟩
      · simpa [Event.asks] using noLook
      · simpa [Event.terminates] using noEnd
    · have distinct : other ≠ process := by
        rintro rfl
        exact fresh later
      have settled := ih apart later (before ++ [.poll other none, .terminate other])
        (by simpa [Event.terminates, distinct] using untouched)
      rwa [List.append_assoc] at settled

end Closing

end RootFinder.Launcher
