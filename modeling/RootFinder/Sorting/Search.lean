/-! Searching a list whose elements up to some place pass a test and those after it do not. The
test may refuse an element, and which ones it is asked about is part of the result. -/
namespace RootFinder.Sorting

variable {α ε : Type}

/-- Lists are read from their front or, turned round, from their end. -/
inductive Direction
  | forward
  | backward
deriving DecidableEq, Repr

/-- The place halfway; of two, the lower one in the list as it stands before it is turned round. -/
def Direction.middle : Direction → Nat → Nat → Nat
  | forward, lo, hi => lo + (hi - lo) / 2
  | backward, lo, hi => lo + (hi - lo - 1) / 2

theorem Direction.middle_bounds (d : Direction) {lo hi : Nat} (h : lo < hi) :
    lo ≤ d.middle lo hi ∧ d.middle lo hi < hi := by
  cases d <;> simp only [middle] <;> omega

variable (test : α → Except ε Bool)

/-- The number of elements that pass, when it lies between two numbers. -/
def bisect (d : Direction) (xs : List α) (lo hi : Nat) : Except ε Nat :=
  if _h : lo < hi then
    match xs[d.middle lo hi]? with
    | none => .ok lo
    | some x =>
      match test x with
      | .error e => .error e
      | .ok true => bisect d xs (d.middle lo hi + 1) hi
      | .ok false => bisect d xs lo (d.middle lo hi)
  else .ok lo
termination_by hi - lo
decreasing_by all_goals have := d.middle_bounds _h; omega

/-- Probes places ever further apart after one that passes: the last that passes, and the first
that does not or the end. -/
def stride (xs : List α) (last probe : Nat) : Except ε (Nat × Nat) :=
  match _h : xs[probe]? with
  | none => .ok (last, xs.length)
  | some x =>
    match test x with
    | .error e => .error e
    | .ok true => stride xs probe (2 * probe + 1)
    | .ok false => .ok (last, probe)
termination_by xs.length - probe
decreasing_by
  obtain ⟨inside, _⟩ := List.getElem?_eq_some_iff.1 _h
  omega

/-- The number of elements that pass, sought from the first one on. -/
def lead (d : Direction) (xs : List α) : Except ε Nat :=
  match xs with
  | [] => .ok 0
  | x :: _ =>
    match test x with
    | .error e => .error e
    | .ok false => .ok 0
    | .ok true =>
      match stride test xs 0 1 with
      | .error e => .error e
      | .ok (last, stop) => bisect test d xs (last + 1) stop

end RootFinder.Sorting
