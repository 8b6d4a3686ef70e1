import Mathlib
import RootFinder.Proofs.Sorting.Refusal

/-! Kinds. Where only elements of one kind have an order, a list that is sorted without a refusal is
of one kind: no run is begun, lengthened or merged without comparing an element of one part with one
of the other. -/
namespace RootFinder.Sorting

variable {α ε κ : Type} {kind : α → κ}

def Uniform (kind : α → κ) (xs : List α) : Prop := ∀ x ∈ xs, ∀ y ∈ xs, kind x = kind y

namespace Uniform

variable {xs ys : List α}

protected theorem nil : Uniform kind ([] : List α) := nofun

protected theorem single (x : α) : Uniform kind [x] := by
  intro y left z right
  rw [List.eq_of_mem_singleton left, List.eq_of_mem_singleton right]

theorem subset (uniform : Uniform kind ys) (inside : xs ⊆ ys) : Uniform kind xs :=
  fun x left y right => uniform x (inside left) y (inside right)

/-- Parts with one element each that are alike. -/
protected theorem append {x y : α} (left : Uniform kind xs) (right : Uniform kind ys)
    (inLeft : x ∈ xs) (inRight : y ∈ ys) (alike : kind x = kind y) : Uniform kind (xs ++ ys) := by
  have same (z : α) (member : z ∈ xs ++ ys) : kind z = kind x := by
    rcases List.mem_append.mp member with first | second
    · exact left z first x inLeft
    · exact (right z second y inRight).trans alike.symm
  exact fun u first v second => (same u first).trans (same v second).symm

/-- All elements are of the kind of one. -/
theorem of_alike {x : α} (alike : ∀ y ∈ xs, kind y = kind x) : Uniform kind (x :: xs) := by
  have same : ∀ y ∈ x :: xs, kind y = kind x := List.forall_mem_cons.mpr ⟨rfl, alike⟩
  exact fun u first v second => (same u first).trans (same v second).symm

end Uniform

section Search

variable {test : α → Except ε Bool} {d : Direction}

/-- The first element is tested. -/
theorem lead_tests {x : α} {xs : List α} {n : Nat} (goes : lead test d (x :: xs) = .ok n) :
    ∃ b, test x = .ok b := by
  cases tested : test x with
  | ok b => exact ⟨b, rfl⟩
  | error e =>
    rw [lead, tested] at goes
    cases goes

/-- Some element is tested if there is one. -/
theorem bisect_tests {xs : List α} {n : Nat} (some : xs ≠ [])
    (goes : bisect test d xs 0 xs.length = .ok n) : ∃ x ∈ xs, ∃ b, test x = .ok b := by
  have positive := List.length_pos_iff.mpr some
  have inside := (d.middle_bounds positive).2
  rw [bisect, dif_pos positive, List.getElem?_eq_getElem inside] at goes
  dsimp only at goes
  split at goes
  · cases goes
  · exact ⟨_, List.getElem_mem inside, _, ‹_›⟩
  · exact ⟨_, List.getElem_mem inside, _, ‹_›⟩

end Search

variable {less : α → α → Except ε Bool}

/-- Elements that have an order are of one kind. -/
def Kindly (less : α → α → Except ε Bool) (kind : α → κ) : Prop :=
  ∀ x y b, less x y = .ok b → kind x = kind y

section Merging

variable {as bs : List α}

theorem merge_uniform {patience left : Nat} {merged : List α} (kindly : Kindly less kind)
    (goes : merge less patience as bs = .ok (merged, left)) (first : Uniform kind as)
    (second : Uniform kind bs) : Uniform kind merged := by
  refine Uniform.subset ?_ (merge_perm goes).subset
  -- the first elements are compared, unless one of the runs is empty
  cases as with
  | nil => exact second
  | cons a as =>
    cases bs with
    | nil =>
      rw [List.append_nil]
      exact first
    | cons b bs =>
      unfold merge at goes
      dsimp only at goes
      split at goes
      · cases goes
      · rename_i leads
        obtain ⟨_, tested⟩ := lead_tests leads
        obtain ⟨_, taken, -⟩ := map_eq_ok tested
        obtain ⟨_, compared, -⟩ := map_eq_ok taken
        exact first.append second List.mem_cons_self List.mem_cons_self (kindly _ _ _ compared).symm

end Merging

section Runs

variable {xs run others : List α}

theorem continued_alike {down : Bool} {last : α} {more : List α} (kindly : Kindly less kind)
    (goes : continued less down last xs = .ok (more, others)) :
    ∀ x ∈ more, kind x = kind last := by
  fun_induction continued less down last xs generalizing more with
  | case1 =>
    cases goes
    exact List.forall_mem_nil _
  | case2 => cases goes
  | case3 last x rest smaller compared _ ih =>
    obtain ⟨⟨next, others'⟩, rest, same⟩ := map_eq_ok goes
    cases same
    have first := kindly _ _ _ compared
    exact List.forall_mem_cons.mpr ⟨first, fun y member => (ih rest y member).trans first⟩
  | case4 =>
    cases goes
    exact List.forall_mem_nil _

theorem firstRun_uniform (kindly : Kindly less kind) (goes : firstRun less xs = .ok (run, others)) :
    Uniform kind run := by
  unfold firstRun at goes
  split at goes
  · cases goes
    exact .nil
  · cases goes
    exact .single _
  · rename_i x y rest
    split at goes
    · cases goes
    · rename_i down compared
      obtain ⟨⟨more, others'⟩, continues, same⟩ := map_eq_ok goes
      cases same
      have first := kindly _ _ _ compared
      have uniform : Uniform kind (x :: y :: more) := Uniform.of_alike <|
        List.forall_mem_cons.mpr ⟨first, fun z member =>
          (continued_alike kindly continues z member).trans first⟩
      cases down with
      | true => exact uniform.subset (List.reverse_perm _).subset
      | false => exact uniform

theorem insert_uniform {sorted inserted : List α} {x : α} (kindly : Kindly less kind)
    (goes : insert less sorted x = .ok inserted) (uniform : Uniform kind sorted) :
    Uniform kind inserted := by
  refine Uniform.subset ?_ (insert_perm goes).subset
  rcases eq_or_ne sorted [] with rfl | some
  · exact .single x
  · obtain ⟨place, bisects, -⟩ := map_eq_ok goes
    obtain ⟨y, member, _, tested⟩ := bisect_tests some bisects
    obtain ⟨_, compared, -⟩ := map_eq_ok tested
    exact (Uniform.single x).append uniform List.mem_cons_self member (kindly _ _ _ compared)

theorem insertAll_uniform {sorted all : List α} (kindly : Kindly less kind)
    (goes : insertAll less sorted xs = .ok all) (uniform : Uniform kind sorted) :
    Uniform kind all := by
  fun_induction insertAll less sorted xs with
  | case1 =>
    cases goes
    exact uniform
  | case2 => cases goes
  | case3 sorted x rest inserted inserts ih =>
    exact ih goes (insert_uniform kindly inserts uniform)

/-- A run is not empty. -/
theorem firstRun_shorter {x : α} (goes : firstRun less (x :: xs) = .ok (run, others)) :
    others.length ≤ xs.length := by
  cases xs with
  | nil =>
    cases goes
    exact le_rfl
  | cons y rest =>
    rw [firstRun] at goes
    split at goes
    · cases goes
    · obtain ⟨⟨more, others'⟩, continues, same⟩ := map_eq_ok goes
      cases same
      rw [continued_append continues, List.length_cons, List.length_append]
      omega

/-- The next run is of one kind, and takes something of the list. -/
theorem nextRun_uniform {length : Nat} {x : α} (kindly : Kindly less kind)
    (goes : nextRun less length (x :: xs) = .ok (run, others)) :
    Uniform kind run ∧ others.length ≤ xs.length := by
  unfold nextRun at goes
  split at goes
  · cases goes
  · rename_i first rest begins
    obtain ⟨all, inserts, same⟩ := map_eq_ok goes
    cases same
    refine ⟨insertAll_uniform kindly inserts (firstRun_uniform kindly begins), ?_⟩
    exact (List.drop_sublist _ rest).length_le.trans (firstRun_shorter begins)

def UniformRuns (kind : α → κ) (runs : List (Run α)) : Prop :=
  ∀ run ∈ runs, Uniform kind run.items

theorem mergeDeeper_uniform {depth patience left : Nat} {runs merged : List (Run α)}
    (kindly : Kindly less kind)
    (goes : mergeDeeper less depth patience runs = .ok (merged, left))
    (uniform : UniformRuns kind runs) : UniformRuns kind merged := by
  unfold UniformRuns at *
  fun_induction mergeDeeper less depth patience runs with
  | case1 => cases goes
  | case2 patience last before rest _ items patience' merges ih =>
    simp only [List.forall_mem_cons] at uniform ih
    obtain ⟨second, first, others⟩ := uniform
    exact ih goes ⟨merge_uniform kindly merges first second, others⟩
  | case3 =>
    cases goes
    simpa only [List.forall_mem_cons] using uniform
  | case4 =>
    cases goes
    simpa only [List.forall_mem_cons] using uniform
  | case5 =>
    cases goes
    exact uniform

theorem collect_uniform {length total fuel start patience left : Nat} {runs all : List (Run α)}
    (kindly : Kindly less kind) (enough : xs.length ≤ fuel)
    (goes : collect less length total fuel start patience runs xs = .ok (all, left))
    (uniform : UniformRuns kind runs) : UniformRuns kind all := by
  fun_induction collect less length total fuel start patience runs xs with
  | case1 =>
    cases goes
    exact uniform
  | case2 _ _ _ xs some =>
    -- there is fuel for every element, and a run takes one at least
    exact absurd (List.length_eq_zero_iff.mp (Nat.le_zero.mp enough)) some
  | case3 => cases goes
  | case4 => cases goes
  | case5 =>
    rename_i next _ _ _ merges ih
    obtain ⟨one, fewer⟩ := nextRun_uniform kindly next
    refine ih (by simp only [List.length_cons] at enough; omega) goes ?_
    exact List.forall_mem_cons.mpr ⟨one, mergeDeeper_uniform kindly merges uniform⟩

theorem mergeAll_uniform {patience : Nat} {runs : List (Run α)} {sorted : List α}
    (kindly : Kindly less kind) (goes : mergeAll less patience runs = .ok sorted)
    (uniform : UniformRuns kind runs) : Uniform kind sorted := by
  unfold UniformRuns at uniform
  fun_induction mergeAll less patience runs with
  | case1 =>
    cases goes
    exact .nil
  | case2 =>
    cases goes
    exact uniform _ List.mem_cons_self
  | case3 patience last before =>
    obtain ⟨⟨merged, left⟩, merges, rfl⟩ := map_eq_ok goes
    simp only [List.forall_mem_cons] at uniform
    exact merge_uniform kindly merges uniform.2.1 uniform.1
  | case4 => cases goes
  | case5 patience last middle first rest _ items patience' merges ih =>
    simp only [List.forall_mem_cons] at uniform ih
    obtain ⟨third, second, one, others⟩ := uniform
    exact ih goes ⟨third, merge_uniform kindly merges one second, others⟩
  | case6 => cases goes
  | case7 patience last middle first rest _ items patience' merges ih =>
    simp only [List.forall_mem_cons] at uniform ih
    obtain ⟨third, second, one, others⟩ := uniform
    exact ih goes ⟨merge_uniform kindly merges second third, one, others⟩

/-- What is sorted is of one kind. -/
theorem sort_uniform {sorted : List α} (kindly : Kindly less kind)
    (goes : sort less xs = .ok sorted) : Uniform kind xs := by
  refine Uniform.subset ?_ (sort_perm goes).symm.subset
  unfold sort at goes
  split at goes
  · cases goes
  · rename_i runs patience collects
    exact mergeAll_uniform kindly goes (collect_uniform kindly le_rfl collects nofun)

/-- The first two elements are compared. -/
theorem sort_compares {x y : α} {rest sorted : List α}
    (goes : sort less (x :: y :: rest) = .ok sorted) : ∃ b, less y x = .ok b := by
  cases compared : less y x with
  | ok b => exact ⟨b, rfl⟩
  | error e =>
    have fails (length : Nat) : nextRun less length (x :: y :: rest) = .error e := by
      rw [nextRun, firstRun, compared]
    rw [sort, List.length_cons, collect, fails] at goes
    cases goes

end Runs

theorem sort_single (x : α) : sort less [x] = .ok [x] := by
  simp [sort, collect, nextRun, firstRun, insertAll, mergeDeeper, mergeAll, Except.map]

/-- Two elements are put in order by one comparison. -/
theorem sort_pair (x y : α) :
    sort less [x, y] = (less y x).map fun down => if down then [y, x] else [x, y] := by
  cases compared : less y x with
  | error e => simp [sort, collect, nextRun, firstRun, compared, Except.map]
  | ok down =>
    simp [sort, collect, nextRun, firstRun, compared, Except.map, continued, insertAll,
      mergeDeeper, mergeAll]

end RootFinder.Sorting
