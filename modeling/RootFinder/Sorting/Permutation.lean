import RootFinder.Result
import RootFinder.Sorting

/-! Sorting only rearranges: whatever the comparison answers, a sorted list has the elements of the
list it was made from. Each operation on runs keeps their elements, so their merges do. -/
namespace RootFinder.Sorting
variable {α ε : Type}

/-- A list cut in two. -/
theorem count_take_drop [BEq α] (k : Nat) (x : α) (xs : List α) :
    (xs.take k).count x + (xs.drop k).count x = xs.count x := by
  rw [← List.count_append, List.take_append_drop]

theorem settled_perm {short long rest : List α} (h : settled short long = some rest) :
    rest.Perm (short ++ long) := by
  unfold settled at h
  split at h
  · cases h
    simp
  · cases h
    simp
  · cases h
    exact List.perm_append_comm
  · cases h

theorem Direction.settled_perm {d : Direction} {as bs rest : List α}
    (h : d.settled as bs = some rest) : rest.Perm (as ++ bs) := by
  cases d with
  | forward => exact Sorting.settled_perm h
  | backward => exact (Sorting.settled_perm h).trans List.perm_append_comm

/-- All elements of a round. -/
def Round.contents : Round α → List α
  | last merged => merged
  | next taken as bs _ => taken ++ (as ++ bs)

variable {less : α → α → Except ε Bool} {d : Direction}

theorem round_perm {as bs : List α} {b : α} {r : Round α} (h : round less d as b bs = .ok r) :
    r.contents.Perm (as ++ b :: bs) := by
  classical
  rw [List.perm_iff_count]
  intro x
  unfold round at h
  split at h
  · cases h
  · rename_i k _
    have split := count_take_drop k x as
    split at h
    · rename_i rest hrest
      cases h
      have := (Direction.settled_perm hrest).count_eq x
      simp only [Round.contents, List.count_append, List.count_cons] at *
      omega
    · split at h
      · rename_i rest hrest
        cases h
        have := (Direction.settled_perm hrest).count_eq x
        simp only [Round.contents, List.count_append, List.count_cons] at *
        omega
      · split at h
        · rename_i hdrop
          cases h
          rw [hdrop] at split
          simp only [Round.contents, List.count_append, List.count_cons, List.count_nil] at *
          omega
        · rename_i a as' hdrop
          rw [hdrop] at split
          split at h
          · cases h
          · rename_i j _
            have parted := count_take_drop j x bs
            split at h
            · rename_i rest hrest
              cases h
              have := (Direction.settled_perm hrest).count_eq x
              simp only [Round.contents, List.count_append, List.count_cons] at *
              omega
            · split at h
              · rename_i rest hrest
                cases h
                have := (Direction.settled_perm hrest).count_eq x
                simp only [Round.contents, List.count_append, List.count_cons] at *
                omega
              · cases h
                simp only [Round.contents, List.count_append, List.count_cons, List.count_nil] at *
                omega

theorem interleave_perm {patience left : Nat} {pace : Pace} {as bs merged : List α}
    (h : interleave less d patience pace as bs = .ok (merged, left)) :
    merged.Perm (as ++ bs) := by
  fun_induction interleave less d patience pace as bs generalizing merged left with
  | case1 => 
    cases h
    exact Direction.settled_perm ‹_›
  | case2 => cases h
  | case3 patience a as b bs _ aWins bWins _ ih =>
    obtain ⟨⟨rest, left'⟩, hrest, heq⟩ := map_eq_ok h
    cases heq
    exact ((ih hrest).cons b).trans List.perm_middle.symm
  | case4 patience a as b bs _ aWins bWins _ ih =>
    obtain ⟨⟨rest, left'⟩, hrest, heq⟩ := map_eq_ok h
    cases heq
    exact (ih hrest).cons a
  | case5 => cases h
  | case6 =>
    rename_i hround
    cases h
    exact round_perm hround
  | case7 =>
    rename_i hround ihLong ihShort
    have whole := round_perm hround
    obtain ⟨⟨more, left'⟩, hmore, heq⟩ := map_eq_ok h
    cases heq
    refine List.Perm.trans (List.Perm.append_left _ ?_) whole
    split at hmore
    · exact ihLong hmore
    · exact ihShort hmore
  | case8 => 
    cases h
    exact .refl _

theorem mergeInner_perm {patience left : Nat} {as bs merged : List α}
    (h : mergeInner less patience as bs = .ok (merged, left)) : merged.Perm (as ++ bs) := by
  unfold mergeInner at h
  split at h
  · split at h
    · cases h
      simp
    · obtain ⟨⟨more, left'⟩, hmore, heq⟩ := map_eq_ok h
      cases heq
      exact ((interleave_perm hmore).cons _).trans List.perm_middle.symm
  · split at h
    · rename_i hnil
      cases h
      rw [List.reverse_eq_nil_iff.1 hnil]
      exact .refl _
    · rename_i a rest hrev
      obtain ⟨⟨more, left'⟩, hmore, heq⟩ := map_eq_ok h
      cases heq
      have inner := ((interleave_perm hmore).trans
        ((List.reverse_perm bs).append_left rest)).cons a
      have turned : (a :: rest).Perm as := hrev ▸ List.reverse_perm as
      exact (List.reverse_perm _).trans (inner.trans (turned.append_right bs))

theorem merge_perm {patience left : Nat} {as bs merged : List α}
    (h : merge less patience as bs = .ok (merged, left)) : merged.Perm (as ++ bs) := by
  unfold merge at h
  split at h
  · cases h
    simp
  · rename_i b rest
    split at h
    · cases h
    · rename_i k _
      split at h
      · cases h
        exact .refl _
      · split at h
        · cases h
        · rename_i j _
          dsimp only at h
          split at h
          · cases h
            exact .refl _
          · obtain ⟨⟨more, left'⟩, hmore, heq⟩ := map_eq_ok h
            cases heq
            have inner := mergeInner_perm hmore
            generalize (b :: rest).length - j = stay at *
            refine ((inner.append_left (as.take k)).append_right ((b :: rest).drop stay)).trans ?_
            rw [← List.append_assoc, List.take_append_drop, List.append_assoc,
              List.take_append_drop]

theorem continued_append {down : Bool} {last : α} {xs more others : List α}
    (h : continued less down last xs = .ok (more, others)) : xs = more ++ others := by
  fun_induction continued less down last xs generalizing more with
  | case1 => cases h; rfl
  | case2 => cases h
  | case3 _ _ _ _ _ _ ih =>
    obtain ⟨⟨rest, others'⟩, hrest, heq⟩ := map_eq_ok h
    cases heq
    rw [List.cons_append, ← ih hrest]
  | case4 => cases h; rfl

theorem firstRun_perm {xs run others : List α} (h : firstRun less xs = .ok (run, others)) :
    (run ++ others).Perm xs := by
  unfold firstRun at h
  split at h
  · cases h; exact .refl _
  · cases h; exact .refl _
  · split at h
    · cases h
    · rename_i down _
      obtain ⟨⟨more, others'⟩, hmore, heq⟩ := map_eq_ok h
      cases heq
      rw [continued_append hmore]
      cases down with
      | true => exact (List.reverse_perm _).append_right _
      | false => exact .refl _

theorem insert_perm {sorted inserted : List α} {x : α} (h : insert less sorted x = .ok inserted) :
    inserted.Perm (x :: sorted) := by
  obtain ⟨place, _, rfl⟩ := map_eq_ok h
  exact List.perm_middle.trans (by rw [List.take_append_drop])

theorem insertAll_perm {sorted xs all : List α} (h : insertAll less sorted xs = .ok all) :
    all.Perm (sorted ++ xs) := by
  fun_induction insertAll less sorted xs with
  | case1 => cases h; simp
  | case2 => cases h
  | case3 sorted x rest sorted' hinsert ih =>
    exact (ih h).trans (((insert_perm hinsert).append_right rest).trans List.perm_middle.symm)

theorem nextRun_perm {length : Nat} {xs run others : List α}
    (h : nextRun less length xs = .ok (run, others)) : (run ++ others).Perm xs := by
  unfold nextRun at h
  split at h
  · cases h
  · rename_i first rest hfirst
    obtain ⟨all, hall, heq⟩ := map_eq_ok h
    cases heq
    have inner := (insertAll_perm hall).append_right (rest.drop (length - first.length))
    rw [List.append_assoc, List.take_append_drop] at inner
    exact inner.trans (firstRun_perm hfirst)

/-- All elements of runs that stand in reverse order. -/
def elements (runs : List (Run α)) : List α := (runs.reverse.map Run.items).flatten

theorem elements_cons (run : Run α) (runs : List (Run α)) :
    elements (run :: runs) = elements runs ++ run.items := by
  simp [elements]

theorem mergeDeeper_perm {depth patience left : Nat} {runs merged : List (Run α)}
    (h : mergeDeeper less depth patience runs = .ok (merged, left)) :
    (elements merged).Perm (elements runs) := by
  fun_induction mergeDeeper less depth patience runs with
  | case1 => cases h
  | case2 patience last before rest _ items patience' hmerge ih =>
    refine (ih h).trans ?_
    simp only [elements_cons, List.append_assoc]
    exact (merge_perm hmerge).append_left _
  | case3 => cases h; simp [elements_cons]
  | case4 => cases h; simp [elements_cons]
  | case5 => cases h; exact .refl _

theorem collect_perm {length total fuel start patience left : Nat} {runs all : List (Run α)}
    {xs : List α} (h : collect less length total fuel start patience runs xs = .ok (all, left)) :
    (elements all).Perm (elements runs ++ xs) := by
  fun_induction collect less length total fuel start patience runs xs with
  | case1 => cases h; simp
  | case2 => cases h; simp [elements_cons]
  | case3 => cases h
  | case4 => cases h
  | case5 =>
    rename_i hnext _ _ _ hmerge ih
    refine (ih h).trans ?_
    rw [elements_cons, List.append_assoc]
    exact ((mergeDeeper_perm hmerge).append_right _).trans ((nextRun_perm hnext).append_left _)

theorem mergeAll_perm {patience : Nat} {runs : List (Run α)} {sorted : List α}
    (h : mergeAll less patience runs = .ok sorted) : sorted.Perm (elements runs) := by
  fun_induction mergeAll less patience runs with
  | case1 => cases h; exact .refl _
  | case2 => cases h; simp [elements]
  | case3 patience last before =>
    obtain ⟨⟨merged, left⟩, hmerge, heq⟩ := map_eq_ok h
    cases heq
    simpa [elements] using merge_perm hmerge
  | case4 => cases h
  | case5 patience last middle first rest _ items patience' hmerge ih =>
    refine (ih h).trans ?_
    simp only [elements_cons, List.append_assoc]
    rw [← List.append_assoc first.items]
    exact ((merge_perm hmerge).append_right _).append_left _
  | case6 => cases h
  | case7 patience last middle first rest _ items patience' hmerge ih =>
    refine (ih h).trans ?_
    simp only [elements_cons, List.append_assoc]
    exact ((merge_perm hmerge).append_left _).append_left _

/-- Sorting only rearranges. -/
theorem sort_perm {xs sorted : List α} (h : sort less xs = .ok sorted) : sorted.Perm xs := by
  unfold sort at h
  split at h
  · cases h
  · rename_i runs patience hcollect
    exact (mergeAll_perm h).trans (collect_perm hcollect)

end RootFinder.Sorting
