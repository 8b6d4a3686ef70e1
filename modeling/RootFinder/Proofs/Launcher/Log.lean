import Mathlib
import RootFinder.Proofs.Launcher.Schedule

/-! What the log of a session tells: the time at each of its events, and how much of the script it
has used. -/
namespace RootFinder.Launcher

namespace Event

def isRequest : Event → Bool
  | .get _ _ => true
  | _ => false

def isSleep : Event → Bool
  | .sleep _ => true
  | _ => false

def isStart : Event → Bool
  | .start _ _ _ _ => true
  | _ => false

/-- A command that looks for the owners of a port or kills one. -/
def isCommand : Event → Bool
  | .run _ => true
  | _ => false

def asks (process : Nat) : Event → Bool
  | .poll p _ => p == process
  | _ => false

def terminates (process : Nat) : Event → Bool
  | .terminate p => p == process
  | _ => false

end Event

/-- The time after some events: a request takes as long as the script says, a sleep as long as it
says itself. -/
def Script.clockAfter (script : Script) : Nat → Float → List Event → Float
  | _, clock, [] => clock
  | asked, clock, .get _ _ :: log =>
    script.clockAfter (asked + 1) (clock + script.lasting asked) log
  | asked, clock, .sleep seconds :: log => script.clockAfter asked (clock + seconds) log
  | asked, clock, _ :: log => script.clockAfter asked clock log

def requests (log : List Event) : Nat := log.countP Event.isRequest

def sleeps (log : List Event) : Nat := log.countP Event.isSleep

def starts (log : List Event) : Nat := log.countP Event.isStart

/-- The states that are left to the processes after those asked for. -/
def pollsAfter (polls : List (List (Option Int))) (log : List Event) : List (List (Option Int)) :=
  log.foldl (fun left event =>
    match event with
    | .poll process _ => left.set process (left.getD process []).tail
    | _ => left) polls

/-- One of the sleeps in the log is the one during which the user interrupts. -/
def Interrupted (script : Script) (log : List Event) : Prop :=
  ∃ n, script.interrupt = some n ∧ 0 < n ∧ n ≤ sleeps log

def Healthy (script : Script) (log : List Event) : Prop :=
  ∃ n < requests log, script.answer n = .status 200

/-- No request is made at the deadline or after it. -/
def Punctual (script : Script) (asked : Nat) (clock deadline : Float) (log : List Event) : Prop :=
  ∀ before url timeout after, log = before ++ .get url timeout :: after →
    script.clockAfter asked clock before < deadline

section Append

variable {script : Script} {asked : Nat} {clock deadline : Float} (first second : List Event)

theorem requests_append : requests (first ++ second) = requests first + requests second :=
  List.countP_append

theorem sleeps_append : sleeps (first ++ second) = sleeps first + sleeps second :=
  List.countP_append

theorem starts_append : starts (first ++ second) = starts first + starts second :=
  List.countP_append

theorem clockAfter_append : script.clockAfter asked clock (first ++ second) =
    script.clockAfter (asked + requests first) (script.clockAfter asked clock first) second := by
  induction first generalizing asked clock with
  | nil => rfl
  | cons event first ih =>
    cases event with
    | get url timeout =>
      have one : requests (.get url timeout :: first) = requests first + 1 :=
        List.countP_cons_of_pos rfl
      rw [one, Nat.add_comm (requests first), ← Nat.add_assoc]
      exact ih
    | _ => exact ih

theorem pollsAfter_append (polls : List (List (Option Int))) :
    pollsAfter polls (first ++ second) = pollsAfter (pollsAfter polls first) second :=
  List.foldl_append

variable {first second}

theorem Punctual.append (h : Punctual script asked clock deadline first)
    (later : Punctual script (asked + requests first) (script.clockAfter asked clock first) deadline
      second) : Punctual script asked clock deadline (first ++ second) := by
  intro before url timeout after split
  rcases List.append_eq_append_iff.mp split with ⟨more, rfl, rest⟩ | ⟨more, rfl, rest⟩
  · rw [clockAfter_append]
    exact later more url timeout after rest
  · cases more with
    | nil =>
      have next := later [] url timeout after rest.symm
      rwa [List.append_nil] at next
    | cons event more =>
      cases rest
      exact h before url timeout more rfl

/-- Without requests nobody is late. -/
theorem punctual_of_none (none : requests first = 0) :
    Punctual script asked clock deadline first := by
  rintro before url timeout after rfl
  rw [requests_append] at none
  simp [requests, Event.isRequest] at none

/-- One request, made in time. -/
theorem punctual_of_one {url : String} {timeout : Nat} (early : clock < deadline)
    (none : requests first = 0) :
    Punctual script asked clock deadline (.get url timeout :: first) := by
  rintro (_ | ⟨_, before⟩) otherUrl otherTimeout after split
  · exact early
  · cases split
    exact punctual_of_none none before otherUrl otherTimeout after rfl

end Append

def OfWaiting (url : String) (event : Event) : Prop := event = .get url 2 ∨ event = .sleep 0.4

end RootFinder.Launcher
