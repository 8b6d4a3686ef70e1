import Mathlib
import RootFinder.Proofs.Launcher.Yields

/-! Waiting for the health of the service: some requests in vain, and then an end. It ends because it
is late, because the service is healthy, or because the user interrupts. -/
namespace RootFinder.Launcher

/-- The clock shows the time that the script says for the next request, and the user has slept as
often as it says. -/
structure OnTime (script : Script) (r : Run) : Prop where
  clock : r.clock = script.asksAt r.requests
  sleeps : r.sleeps = script.dozes r.requests

theorem Begun.onTime {r : Run} (h : Begun r) (script : Script) : OnTime script r := by
  constructor
  · rw [h.clock, h.requests]
    rfl
  · rw [h.sleeps, h.requests]
    rfl

section Awaiting

variable {script : Script} {url : String} {deadline : Float}

/-- Waiting in vain: no request came too late or was answered well, and no sleep was interrupted. -/
structure Vain (script : Script) (url : String) (deadline : Float) (r : Run) (events : List Event)
    (r' : Run) : Prop where
  after : After script r events r'
  waiting : ∀ e ∈ events, OfWaiting url e
  punctual : Punctual script r.requests r.clock deadline events
  awake : ∀ n, r.sleeps < n → n ≤ r'.sleeps → script.interrupt ≠ some n
  onTime : OnTime script r → OnTime script r'
  inVain : OnTime script r → ∀ n, r.requests ≤ n → n < r'.requests → script.InVain deadline n

namespace Vain

variable {r r' r'' : Run} {first second : List Event}

protected theorem refl (r : Run) : Vain script url deadline r [] r where
  after := .refl r
  waiting := nofun
  punctual := punctual_of_none rfl
  awake := by
    intro n low high
    omega
  onTime := id
  inVain := by
    intro _ n low high
    omega

protected theorem trans (before : Vain script url deadline r first r')
    (after : Vain script url deadline r' second r'') :
    Vain script url deadline r (first ++ second) r'' where
  after := before.after.trans after.after
  waiting := by
    intro e member
    rcases List.mem_append.mp member with early | late
    · exact before.waiting e early
    · exact after.waiting e late
  punctual := by
    refine before.punctual.append ?_
    rw [← before.after.requests, ← before.after.clock]
    exact after.punctual
  awake := by
    intro n low high
    by_cases early : n ≤ r'.sleeps
    · exact before.awake n low early
    · exact after.awake n (Nat.not_le.mp early) high
  onTime := after.onTime ∘ before.onTime
  inVain := by
    intro onTime n low high
    by_cases early : n < r'.requests
    · exact before.inVain onTime n low early
    · exact after.inVain (before.onTime onTime) n (Nat.not_lt.mp early) high

/-- A request that the service answers, but not well. -/
theorem refused {code : Int} (early : r.clock < deadline)
    (answer : script.answer r.requests = .status code) (bad : code ≠ 200)
    (after : After script r [.get url 2] r') : Vain script url deadline r [.get url 2] r' := by
  have next : r'.requests = r.requests + 1 := after.requests
  have same : r'.sleeps = r.sleeps := after.sleeps
  have clock : r'.clock = r.clock + script.lasting r.requests := after.clock
  refine { after, punctual := punctual_of_one early rfl, waiting := ?_, awake := ?_,
           onTime := ?_, inVain := ?_ }
  · simp [OfWaiting]
  · intro n low high
    omega
  · rintro ⟨time, sleeps⟩
    constructor
    · rw [clock, time, next, Script.asksAt, answer]
    · rw [same, sleeps, next, Script.dozes, answer]
  · rintro ⟨time, sleeps⟩ n low high
    obtain rfl : n = r.requests := by omega
    refine ⟨time ▸ early, fun good => ?_, fun down => ?_⟩
    · rw [answer] at good
      exact bad (Health.status.inj good)
    · rw [answer] at down
      cases down

/-- A request that nobody answers, and a sleep after it. -/
theorem down (early : r.clock < deadline) (answer : script.answer r.requests = .down)
    (after : After script r [.get url 2, .sleep 0.4] r')
    (asleep : script.interrupt ≠ some (r.sleeps + 1)) :
    Vain script url deadline r [.get url 2, .sleep 0.4] r' := by
  have next : r'.requests = r.requests + 1 := after.requests
  have more : r'.sleeps = r.sleeps + 1 := after.sleeps
  have clock : r'.clock = r.clock + script.lasting r.requests + 0.4 := after.clock
  refine { after, punctual := punctual_of_one early rfl, waiting := ?_, awake := ?_,
           onTime := ?_, inVain := ?_ }
  · simp [OfWaiting]
  · intro n low high
    obtain rfl : n = r.sleeps + 1 := by omega
    exact asleep
  · rintro ⟨time, sleeps⟩
    constructor
    · rw [clock, time, next, Script.asksAt, answer]
    · rw [more, sleeps, next, Script.dozes, answer]
  · rintro ⟨time, sleeps⟩ n low high
    obtain rfl : n = r.requests := by omega
    refine ⟨time ▸ early, fun good => ?_, fun _ => sleeps ▸ asleep⟩
    rw [answer] at good
    cases good

/-- From the beginning on all requests have been in vain, and the next one comes as scheduled. -/
theorem scheduled (vain : Vain script url deadline r first r') (begun : Begun r) :
    OnTime script r' ∧ ∀ n < r'.requests, script.InVain deadline n := by
  have onTime := begun.onTime script
  refine ⟨vain.onTime onTime, fun n => vain.inVain onTime n ?_⟩
  rw [begun.requests]
  exact Nat.zero_le n

end Vain

inductive WaitEnds (script : Script) (url : String) (deadline : Float) (r : Run) :
    List Event → Except Interruption Bool → Run → Prop
  | late (late : ¬ r.clock < deadline) : WaitEnds script url deadline r [] (.ok false) r
  | healthy {r' : Run} (early : r.clock < deadline)
      (answer : script.answer r.requests = .status 200) (after : After script r [.get url 2] r') :
      WaitEnds script url deadline r [.get url 2] (.ok true) r'
  | interrupted {r' : Run} (early : r.clock < deadline) (answer : script.answer r.requests = .down)
      (asleep : script.interrupt = some (r.sleeps + 1))
      (after : After script r [.get url 2, .sleep 0.4] r') :
      WaitEnds script url deadline r [.get url 2, .sleep 0.4] (.error .keyboard) r'

/-- Waiting from `r` with so much fuel ends, with more fuel in the same way; or it gives up after
as many requests. -/
def Awaits (script : Script) (url : String) (deadline : Float) (fuel : Nat) (r : Run) : Prop :=
  ∃ vain r₁, Vain script url deadline r vain r₁ ∧
    ((∃ last outcome r₂, WaitEnds script url deadline r₁ last outcome r₂ ∧
        ∀ more, Yields script (awaitHealth script url deadline (fuel + more)) r outcome
          (vain ++ last) r₂) ∨
      (fuel ≤ requests vain ∧
        Yields script (awaitHealth script url deadline fuel) r (.ok false) vain r₁))

/-- After one more request in vain it ends in the way in which it ends from there. -/
theorem Awaits.cons {fuel : Nat} {r r₁ : Run} {step : List Event}
    (vain : Vain script url deadline r step r₁) (request : requests step = 1)
    (goes : ∀ fuel outcome events r₂,
      Yields script (awaitHealth script url deadline fuel) r₁ outcome events r₂ →
      Yields script (awaitHealth script url deadline (fuel + 1)) r outcome (step ++ events) r₂)
    (rest : Awaits script url deadline fuel r₁) : Awaits script url deadline (fuel + 1) r := by
  obtain ⟨others, r₂, vainly, ⟨last, outcome, r₃, ends, yields⟩ | ⟨bound, yields⟩⟩ := rest
  · refine ⟨step ++ others, r₂, vain.trans vainly, .inl ⟨last, outcome, r₃, ends, ?_⟩⟩
    intro more
    rw [Nat.add_right_comm, List.append_assoc]
    exact goes _ _ _ _ (yields more)
  · refine ⟨step ++ others, r₂, vain.trans vainly, .inr ⟨?_, goes _ _ _ _ yields⟩⟩
    rw [requests_append, request]
    omega

theorem awaitHealth_late {r : Run} (late : ¬ r.clock < deadline) (fuel : Nat) :
    Yields script (awaitHealth script url deadline fuel) r (.ok false) [] r := by
  cases fuel with
  | zero => exact .pure false r
  | succ fuel =>
    apply Yields.get_bind
    rw [if_neg late]
    exact .pure false r

/-- A request before the deadline, and what follows it. -/
theorem awaitHealth_early {r r₁ r₂ : Run} {fuel : Nat} {events : List Event}
    {outcome : Except Interruption Bool} (early : r.clock < deadline)
    (asked : Yields script (askHealth script url) r (.ok (script.answer r.requests)) [.get url 2]
      r₁)
    (rest : Yields script (match script.answer r.requests with
      | .status code => if code = 200 then pure true else awaitHealth script url deadline fuel
      | .down => do
        sleep script 0.4
        awaitHealth script url deadline fuel) r₁ outcome events r₂) :
    Yields script (awaitHealth script url deadline (fuel + 1)) r outcome (.get url 2 :: events)
      r₂ := by
  apply Yields.get_bind
  rw [if_pos early]
  exact asked.bind rest

theorem awaitHealth_awaits (fuel : Nat) (r : Run) : Awaits script url deadline fuel r := by
  induction fuel generalizing r with
  | zero => exact ⟨[], r, .refl r, .inr ⟨Nat.zero_le _, .pure false r⟩⟩
  | succ fuel ih =>
    by_cases early : r.clock < deadline
    · obtain ⟨r₁, asked⟩ := askHealth_yields script r url
      cases answer : script.answer r.requests with
      | status code =>
        by_cases good : code = 200
        · subst code
          refine ⟨[], r, .refl r, .inl ⟨_, _, r₁, .healthy early answer asked.after, ?_⟩⟩
          intro more
          rw [Nat.add_right_comm]
          refine awaitHealth_early early asked ?_
          rw [answer]
          exact .pure true r₁
        · refine Awaits.cons (.refused early answer good asked.after) rfl ?_ (ih r₁)
          intro fuel outcome events r₂ rest
          refine awaitHealth_early early asked ?_
          rw [answer]
          dsimp only
          rwa [if_neg good]
      | down =>
        obtain ⟨r₂, slept⟩ := sleep_yields script r₁ 0.4
        have sleeps : r₁.sleeps = r.sleeps := asked.after.sleeps
        rw [sleeps] at slept
        by_cases asleep : script.interrupt = some (r.sleeps + 1)
        · rw [if_pos asleep] at slept
          have after := asked.after.trans slept.after
          refine ⟨[], r, .refl r, .inl ⟨_, _, r₂, .interrupted early answer asleep after, ?_⟩⟩
          intro more
          rw [Nat.add_right_comm]
          refine awaitHealth_early early asked ?_
          rw [answer]
          exact slept.broken
        · rw [if_neg asleep] at slept
          have after := asked.after.trans slept.after
          refine Awaits.cons (.down early answer after asleep) rfl ?_ (ih r₂)
          intro fuel outcome events r₃ rest
          refine awaitHealth_early early asked ?_
          rw [answer]
          exact slept.bind rest
    · refine ⟨[], r, .refl r, .inl ⟨[], _, r, .late early, fun more => ?_⟩⟩
      exact awaitHealth_late early _

theorem WaitEnds.punctual {r r' : Run} {last : List Event} {outcome : Except Interruption Bool}
    (ends : WaitEnds script url deadline r last outcome r') :
    Punctual script r.requests r.clock deadline last := by
  cases ends with
  | late => exact punctual_of_none rfl
  | healthy early => exact punctual_of_one early rfl
  | interrupted early => exact punctual_of_one early rfl

end Awaiting

/-- However long the service is waited for, no request is made at the deadline or after it. -/
theorem waitWithin_punctual (fuel : Nat) (script : Script) (baseUrl : String) (timeout : Float)
    (r : Run) : ∃ outcome events r',
      Yields script (waitWithin fuel script baseUrl timeout) r outcome events r' ∧
        Punctual script r.requests r.clock (r.clock + timeout) events := by
  obtain ⟨vain, r₁, vainly, ⟨last, outcome, r₂, ends, yields⟩ | ⟨-, yields⟩⟩ :=
    @awaitHealth_awaits script (baseUrl ++ "/health") (r.clock + timeout) fuel r
  · refine ⟨outcome, vain ++ last, r₂, (yields 0).get_bind, vainly.punctual.append ?_⟩
    rw [← vainly.after.requests, ← vainly.after.clock]
    exact ends.punctual
  · exact ⟨.ok false, vain, r₁, yields.get_bind, vainly.punctual⟩

/-- Waiting for a minute ends by itself, before so many requests have been made. -/
theorem waitWithin_ends {fuel : Nat} {script : Script} {baseUrl : String} {r : Run}
    (begun : Begun r) (enough : script.health.length + 151 < fuel) :
    ∃ vain r₁ last outcome r₂, Vain script (baseUrl ++ "/health") patience r vain r₁ ∧
      WaitEnds script (baseUrl ++ "/health") patience r₁ last outcome r₂ ∧
      ∀ more, Yields script (waitWithin (fuel + more) script baseUrl patience) r outcome
        (vain ++ last) r₂ := by
  have deadline : r.clock + patience = patience := by
    rw [begun.clock]
    decide +kernel
  obtain ⟨vain, r₁, vainly, ⟨last, outcome, r₂, ends, yields⟩ | ⟨bound, -⟩⟩ :=
    @awaitHealth_awaits script (baseUrl ++ "/health") patience fuel r
  · refine ⟨vain, r₁, last, outcome, r₂, vainly, ends, fun more => Yields.get_bind ?_⟩
    rw [deadline]
    exact yields more
  · have asked := begun.asked vainly.after
    have fewer := le_of_inVain (vainly.scheduled begun).2
    omega

end RootFinder.Launcher
