import RootFinder.Sorting.Search

/-! Merging two adjacent ascending runs. Elements are taken one by one until one run wins often
enough in a row; then stretches of it are taken at once, as long as they are long. How often is
enough is learnt on the way. A merge works from the side of the shorter run. -/
namespace RootFinder.Sorting

variable {α ε : Type}

/-- What is left of two runs when the order of that is known: one of them is used up, or of the
first only its greatest element in reading order is left. -/
def settled : List α → List α → Option (List α)
  | short, [] => some short
  | [], long => some long
  | [x], long => some (long ++ [x])
  | _, _ => none

/-- Forward the earlier run is the short one, backward the later run. -/
def Direction.settled : Direction → List α → List α → Option (List α)
  | forward, as, bs => Sorting.settled as bs
  | backward, as, bs => Sorting.settled bs as

/-- Wins in a row of either run while elements are taken one by one, or taking by stretches. -/
inductive Pace
  | single (as bs : Nat)
  | gallop

/-- A number of wins changes the pace once it reaches the patience. -/
def Pace.after (patience as bs : Nat) : Pace :=
  if patience ≤ max as bs then gallop else single as bs

/-- The length from which a stretch is long, and the patience to begin with. -/
def longStretch : Nat := 7

/-- A round of taking by stretches: it ends the merge, or leaves parts of the runs. -/
inductive Round (α : Type)
  | last (merged : List α)
  | next (taken as bs : List α) (long : Bool)

section

variable (less : α → α → Except ε Bool) (d : Direction)

/-- Whether `b` of the later run is taken before `a` of the earlier one. -/
def takesLater (a b : α) : Except ε Bool :=
  (less b a).map fun smaller =>
    match d with
    | .forward => smaller
    | .backward => !smaller

/-- Takes what goes before `b`, then `b`, then what goes before the next element of the earlier
run, then that. -/
def round (as : List α) (b : α) (bs : List α) : Except ε (Round α) :=
  match lead (fun a => (takesLater less d a b).map (!·)) d as with
  | .error e => .error e
  | .ok k =>
    match d.settled (as.drop k) (b :: bs) with
    | some rest => .ok (.last (as.take k ++ rest))
    | none =>
      match d.settled (as.drop k) bs with
      | some rest => .ok (.last (as.take k ++ b :: rest))
      | none =>
        match as.drop k with
        | [] => .ok (.last (as.take k ++ b :: bs))
        | a :: as' =>
          match lead (takesLater less d a) d bs with
          | .error e => .error e
          | .ok j =>
            match d.settled (a :: as') (bs.drop j) with
            | some rest => .ok (.last (as.take k ++ b :: (bs.take j ++ rest)))
            | none =>
              match d.settled as' (bs.drop j) with
              | some rest => .ok (.last (as.take k ++ b :: (bs.take j ++ a :: rest)))
              | none =>
                .ok (.next (as.take k ++ b :: (bs.take j ++ [a])) as' (bs.drop j)
                  (longStretch ≤ k || longStretch ≤ j))

variable {less d}

theorem round_next {as bs taken as' bs' : List α} {b : α} {long : Bool}
    (h : round less d as b bs = .ok (.next taken as' bs' long)) :
    as'.length + bs'.length < as.length + bs.length + 1 := by
  unfold round at h
  split at h
  · cases h
  · rename_i k _
    split at h
    · cases h
    · split at h
      · cases h
      · split at h
        · cases h
        · rename_i a rest hdrop
          have hlen := congrArg List.length hdrop
          rw [List.length_drop, List.length_cons] at hlen
          split at h
          · cases h
          · rename_i j _
            split at h
            · cases h
            · split at h
              · cases h
              · cases h
                rw [List.length_drop]
                omega

variable (less d)

/-- Merges two runs in reading order, and tells the patience that is left. -/
def interleave (patience : Nat) (pace : Pace) (as bs : List α) : Except ε (List α × Nat) :=
  match as, bs with
  | a :: as, b :: bs =>
    match d.settled (a :: as) (b :: bs) with
    | some rest => .ok (rest, patience)
    | none =>
      match pace with
      | .single aWins bWins =>
        match takesLater less d a b with
        | .error e => .error e
        | .ok true =>
          (interleave patience (.after patience 0 (bWins + 1)) (a :: as) bs).map
            fun (merged, patience) => (b :: merged, patience)
        | .ok false =>
          (interleave patience (.after patience (aWins + 1) 0) as (b :: bs)).map
            fun (merged, patience) => (a :: merged, patience)
      | .gallop =>
        match _h : round less d (a :: as) b bs with
        | .error e => .error e
        | .ok (.last merged) => .ok (merged, patience)
        | .ok (.next taken as bs long) =>
          (if long then interleave (max 1 (patience - 1)) .gallop as bs
            else interleave (patience + 1) (.single 0 0) as bs).map
              fun (merged, patience) => (taken ++ merged, patience)
  | as, bs => .ok (as ++ bs, patience)
termination_by as.length + bs.length
decreasing_by
  · simp
  · simp
  · have := round_next _h; simp only [List.length_cons] at *; omega
  · have := round_next _h; simp only [List.length_cons] at *; omega

end

variable (less : α → α → Except ε Bool)

/-- Merges two runs of which it is known that the first element of the later one goes first, and
the last of the earlier one last. -/
def mergeInner (patience : Nat) (as bs : List α) : Except ε (List α × Nat) :=
  if as.length ≤ bs.length then
    match bs with
    | [] => .ok (as, patience)
    | b :: bs =>
      (interleave less .forward patience (.single 0 0) as bs).map
        fun (merged, patience) => (b :: merged, patience)
  else
    match as.reverse with
    | [] => .ok (bs, patience)
    | a :: rest =>
      (interleave less .backward patience (.single 0 0) rest bs.reverse).map
        fun (merged, patience) => ((a :: merged).reverse, patience)

/-- Merges two adjacent runs. What the earlier one begins with and the later one ends with is in
its place already. -/
def merge (patience : Nat) (as bs : List α) : Except ε (List α × Nat) :=
  match bs with
  | [] => .ok (as, patience)
  | b :: rest =>
    match lead (fun a => (takesLater less .forward a b).map (!·)) .forward as with
    | .error e => .error e
    | .ok k =>
      match (as.drop k).getLast? with
      | none => .ok (as ++ b :: rest, patience)
      | some a =>
        match lead (takesLater less .backward a) .backward (b :: rest).reverse with
        | .error e => .error e
        | .ok j =>
          let stay := (b :: rest).length - j
          if stay = 0 then .ok (as ++ b :: rest, patience)
          else
            (mergeInner less patience (as.drop k) ((b :: rest).take stay)).map
              fun (merged, patience) =>
                (as.take k ++ merged ++ (b :: rest).drop stay, patience)

end RootFinder.Sorting
