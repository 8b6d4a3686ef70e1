import RootFinder.Sorting.Merge

/-! Sorting by a comparison that may refuse a pair. The list is cut into runs, ascending ones and
strictly descending ones, which are turned round; short runs are lengthened by inserting what
follows them. Adjacent runs are merged in the order of a nearly balanced tree. Which pair is
refused first depends on this order of comparisons. -/
namespace RootFinder.Sorting

variable {α ε : Type}

/-- A run of the list, the place where it begins, and the depth of its boundary with the next run
in the tree of merges. -/
structure Run (α : Type) where
  start : Nat
  items : List α
  depth : Nat

/-- The number of doublings after which two fractions, each doubled, have different quotients. -/
def parting (den : Nat) : Nat → Nat → Nat → Nat
  | 0, _, _ => 0
  | fuel + 1, a, b => if a / den ≠ b / den then 1 else 1 + parting den fuel (2 * a) (2 * b)

/-- The depth of the boundary between a run and the next of `length` elements, in a list of
`total`: the middles of the two runs part there when the list is halved again and again. -/
def Run.depthTo (run : Run α) (length total : Nat) : Nat :=
  let a := 2 * run.start + run.items.length
  parting total (total.log2 + 2) a (a + run.items.length + length)

/-- The length up to which short runs are brought: from 32 to 64, so that the number of runs is a
power of two or a little less. -/
def runLength (total : Nat) : Nat :=
  if total < 64 then total
  else
    let part := 1 <<< (total.log2 - 5)
    (total + part - 1) / part

variable (less : α → α → Except ε Bool)

/-- The elements that continue a run ending in `last`, as long as comparing each with the one
before it gives `down`, and those after them. -/
def continued (down : Bool) (last : α) : List α → Except ε (List α × List α)
  | [] => .ok ([], [])
  | x :: rest =>
    match less x last with
    | .error e => .error e
    | .ok smaller =>
      if smaller == down then
        (continued down x rest).map fun (more, others) => (x :: more, others)
      else .ok ([], x :: rest)

/-- The run that a list begins with, in ascending order, and what follows. -/
def firstRun : List α → Except ε (List α × List α)
  | [] => .ok ([], [])
  | [x] => .ok ([x], [])
  | x :: y :: rest =>
    match less y x with
    | .error e => .error e
    | .ok down =>
      (continued less down y rest).map fun (more, others) =>
        (if down then (x :: y :: more).reverse else x :: y :: more, others)

/-- Puts an element behind the last one that is not greater. -/
def insert (sorted : List α) (x : α) : Except ε (List α) :=
  (bisect (fun y => (less x y).map (!·)) .forward sorted 0 sorted.length).map fun place =>
    sorted.take place ++ x :: sorted.drop place

/-- Inserts the elements of a list. -/
def insertAll (sorted : List α) : List α → Except ε (List α)
  | [] => .ok sorted
  | x :: rest =>
    match insert less sorted x with
    | .error e => .error e
    | .ok sorted => insertAll sorted rest

/-- The run that a list begins with, brought to a length, and what follows. -/
def nextRun (length : Nat) (xs : List α) : Except ε (List α × List α) :=
  match firstRun less xs with
  | .error e => .error e
  | .ok (first, others) =>
    (insertAll less first (others.take (length - first.length))).map fun run =>
      (run, others.drop (length - first.length))

/-- Merges the last runs as long as the boundary between them is deeper than the next one, which
then becomes that of the last. The runs stand in reverse order. -/
def mergeDeeper (depth patience : Nat) (runs : List (Run α)) : Except ε (List (Run α) × Nat) :=
  match runs with
  | last :: before :: rest =>
    if depth < before.depth then
      match merge less patience before.items last.items with
      | .error e => .error e
      | .ok (items, patience) =>
        mergeDeeper depth patience (⟨before.start, items, before.depth⟩ :: rest)
    else .ok (⟨last.start, last.items, depth⟩ :: before :: rest, patience)
  | [last] => .ok ([⟨last.start, last.items, depth⟩], patience)
  | [] => .ok ([], patience)
termination_by runs.length

/-- Cuts a list into runs, at most `fuel` of them, and merges what lies deep enough. -/
def collect (length total : Nat) :
    Nat → Nat → Nat → List (Run α) → List α → Except ε (List (Run α) × Nat)
  | _, _, patience, runs, [] => .ok (runs, patience)
  | 0, start, patience, runs, xs => .ok (⟨start, xs, 0⟩ :: runs, patience)
  | fuel + 1, start, patience, runs, x :: xs =>
    match nextRun less length (x :: xs) with
    | .error e => .error e
    | .ok (items, others) =>
      let depth := (runs.head?.map fun last => last.depthTo items.length total).getD 0
      match mergeDeeper less depth patience runs with
      | .error e => .error e
      | .ok (runs, patience) =>
        collect length total fuel (start + items.length) patience (⟨start, items, 0⟩ :: runs)
          others

/-- Merges all runs, the last two or, if the last is longer than the third last, those before. -/
def mergeAll (patience : Nat) (runs : List (Run α)) : Except ε (List α) :=
  match runs with
  | [] => .ok []
  | [run] => .ok run.items
  | [last, before] => (merge less patience before.items last.items).map (·.1)
  | last :: middle :: first :: rest =>
    if first.items.length < last.items.length then
      match merge less patience first.items middle.items with
      | .error e => .error e
      | .ok (items, patience) =>
        mergeAll patience (last :: ⟨first.start, items, first.depth⟩ :: rest)
    else
      match merge less patience middle.items last.items with
      | .error e => .error e
      | .ok (items, patience) =>
        mergeAll patience (⟨middle.start, items, middle.depth⟩ :: first :: rest)
termination_by runs.length

/-- The list in ascending order; equal elements keep theirs. -/
def sort (xs : List α) : Except ε (List α) :=
  match collect less (runLength xs.length) xs.length xs.length 0 longStretch [] xs with
  | .error e => .error e
  | .ok (runs, patience) => mergeAll less patience runs

end RootFinder.Sorting
