import Mathlib
import RootFinder.Launcher
import RootFinder.Proofs.Binary64.Order

/-! When the requests for health are made, told from the script alone, as long as all of them are
made in vain. The time between two requests is that of the reply, and a pause where nobody answered;
so once the replies are used up, the requests that fit into a minute are counted by the pauses. -/
namespace RootFinder.Launcher

open Binary64 (infinity make sumRank)

namespace Script

variable (script : Script)

def answer (n : Nat) : Health := (script.reply n).health

def lasting (n : Nat) : Float := (script.reply n).lasting.seconds

/-- The time of a request that so many others were made before in vain. -/
def asksAt : Nat → Float
  | 0 => 0
  | n + 1 =>
    match script.answer n with
    | .status _ => asksAt n + script.lasting n
    | .down => asksAt n + script.lasting n + 0.4

/-- The number of sleeps before that request. -/
def dozes : Nat → Nat
  | 0 => 0
  | n + 1 =>
    match script.answer n with
    | .status _ => dozes n
    | .down => dozes n + 1

/-- The request is made in time but in vain: it is not answered well, and the user does not
interrupt the sleep after it. -/
def InVain (deadline : Float) (n : Nat) : Prop :=
  script.asksAt n < deadline ∧ script.answer n ≠ .status 200 ∧
    (script.answer n = .down → script.interrupt ≠ some (script.dozes n + 1))

/-- All requests are made in vain until it is too late for the next one. -/
def Late (deadline : Float) : Prop :=
  ∃ n, (∀ k < n, script.InVain deadline k) ∧ ¬ script.asksAt n < deadline

variable {script} {deadline : Float}

/-- The first request that is made in time and is not in vain decides that it does not get late. -/
theorem not_late {n : Nat} (before : ∀ k < n, script.InVain deadline k)
    (early : script.asksAt n < deadline) (decisive : ¬ script.InVain deadline n) :
    ¬ script.Late deadline := by
  rintro ⟨m, vain, late⟩
  rcases Nat.lt_trichotomy m n with earlier | rfl | later
  · exact late (before m earlier).1
  · exact late early
  · exact decisive (vain n later)

end Script

section Minute

variable {script : Script}

def pauseRank : Nat := 0x3FD999999999999A

def minuteRank : Nat := 0x404E000000000000

def pauseLater (rank : Nat) : Nat := sumRank rank pauseRank

theorem pause_eq : (0.4 : Float) = make false pauseRank := by decide +kernel

theorem zero_eq : (0 : Float) = make false 0 := by decide +kernel

theorem patience_eq : patience = make false minuteRank := by decide +kernel

theorem minute_le : minuteRank ≤ pauseLater^[151] 0 := by decide +kernel

/-- The next request comes no earlier, and at least a pause later when nobody answered. -/
theorem asksAt_succ {n rank : Nat} (bound : rank ≤ infinity)
    (time : script.asksAt n = make false rank) : ∃ later ≤ infinity,
      script.asksAt (n + 1) = make false later ∧ rank ≤ later ∧
        (script.answer n = .down → pauseLater rank ≤ later) := by
  obtain ⟨answered, lower, upper, sum⟩ :=
    Binary64.make_add_of_zero_le bound (script.reply n).lasting.nonneg
  have passed : script.asksAt n + script.lasting n = make false answered := by
    rw [time]
    exact sum
  rw [Script.asksAt, passed]
  cases script.answer n with
  | status code => exact ⟨answered, upper, rfl, lower, nofun⟩
  | down =>
    refine ⟨pauseLater answered, Binary64.sumRank_le _ _, ?_, ?_, fun _ => ?_⟩
    · rw [pause_eq]
      exact Binary64.make_add_make upper (by decide)
    · exact lower.trans (Binary64.le_sumRank _ upper)
    · exact Binary64.sumRank_mono _ lower

theorem asksAt_rank (script : Script) (n : Nat) :
    ∃ rank ≤ infinity, script.asksAt n = make false rank := by
  induction n with
  | zero => exact ⟨0, Nat.zero_le _, zero_eq⟩
  | succ n ih =>
    obtain ⟨rank, bound, time⟩ := ih
    obtain ⟨later, upper, next, -⟩ := asksAt_succ bound time
    exact ⟨later, upper, next⟩

theorem answer_down {n : Nat} (usedUp : script.health.length ≤ n) : script.answer n = .down := by
  rw [Script.answer, Script.reply, List.getD_eq_default _ _ usedUp]

/-- After the replies are used up, the time passes by at least a pause with each request. -/
theorem asksAt_pauses (script : Script) (n : Nat) : ∃ rank ≤ infinity,
    script.asksAt (script.health.length + n) = make false rank ∧ pauseLater^[n] 0 ≤ rank := by
  induction n with
  | zero =>
    obtain ⟨rank, bound, time⟩ := asksAt_rank script script.health.length
    exact ⟨rank, bound, time, Nat.zero_le _⟩
  | succ n ih =>
    obtain ⟨rank, bound, time, least⟩ := ih
    obtain ⟨later, upper, next, -, paused⟩ := asksAt_succ bound time
    refine ⟨later, upper, next, ?_⟩
    rw [Function.iterate_succ_apply']
    exact (Binary64.sumRank_mono _ least).trans (paused (answer_down (Nat.le_add_right _ n)))

/-- So many requests are not made before a minute is over. -/
theorem le_of_inVain {n : Nat} (vain : ∀ k < n, script.InVain patience k) :
    n ≤ script.health.length + 151 := by
  by_contra more
  obtain ⟨rank, bound, time, least⟩ := asksAt_pauses script 151
  have early := (vain (script.health.length + 151) (Nat.not_le.mp more)).1
  rw [time, patience_eq, Binary64.make_lt_make bound (by decide)] at early
  exact absurd (minute_le.trans least) (Nat.not_le.mpr early)

end Minute

end RootFinder.Launcher
