import Mathlib
import RootFinder.Sorting.Permutation

/-! Refused pairs. Sorting fails only where the comparison refuses two elements of the list: whatever
is searched, merged or inserted is made of elements of the list, and nothing else is compared. -/
namespace RootFinder.Sorting

variable {α ε : Type} {e : ε}

section Search

variable {test : α → Except ε Bool} {d : Direction} {xs : List α}

theorem bisect_error {lo hi : Nat} (fails : bisect test d xs lo hi = .error e) :
    ∃ x ∈ xs, test x = .error e := by
  fun_induction bisect test d xs lo hi with
  | case1 => cases fails
  | case2 _ _ _ x found e' refused =>
    cases fails
    exact ⟨x, List.mem_of_getElem? found, refused⟩
  | case3 _ _ _ _ _ _ ih => exact ih fails
  | case4 _ _ _ _ _ _ ih => exact ih fails
  | case5 => cases fails

theorem stride_error {last probe : Nat} (fails : stride test xs last probe = .error e) :
    ∃ x ∈ xs, test x = .error e := by
  fun_induction stride test xs last probe with
  | case1 => cases fails
  | case2 _ _ x found e' refused =>
    cases fails
    exact ⟨x, List.mem_of_getElem? found, refused⟩
  | case3 _ _ _ _ _ ih => exact ih fails
  | case4 => cases fails

theorem lead_error (fails : lead test d xs = .error e) : ∃ x ∈ xs, test x = .error e := by
  unfold lead at fails
  split at fails
  · cases fails
  · rename_i x rest
    split at fails
    · rename_i refused
      cases fails
      exact ⟨x, List.mem_cons_self, refused⟩
    · cases fails
    · split at fails
      · rename_i strides
        cases fails
        exact stride_error strides
      · exact bisect_error fails

end Search

variable {less : α → α → Except ε Bool} {d : Direction}

def Refuses (less : α → α → Except ε Bool) (xs : List α) (e : ε) : Prop :=
  ∃ x ∈ xs, ∃ y ∈ xs, less x y = .error e

theorem Refuses.subset {xs ys : List α} (refused : Refuses less xs e) (inside : xs ⊆ ys) :
    Refuses less ys e := by
  obtain ⟨x, left, y, right, pair⟩ := refused
  exact ⟨x, inside left, y, inside right, pair⟩

theorem map_eq_error {β : Type} {x : Except ε α} {f : α → β} (fails : x.map f = .error e) :
    x = .error e := by
  cases x with
  | error e' =>
    cases fails
    rfl
  | ok a => cases fails

section Merging

variable {as bs xs : List α} {a b : α}

theorem takesLater_error (fails : takesLater less d a b = .error e) : less b a = .error e :=
  map_eq_error fails

theorem lead_earlier_error
    (fails : lead (fun a => (takesLater less d a b).map (!·)) d as = .error e) :
    Refuses less (as ++ b :: bs) e := by
  obtain ⟨a, member, refused⟩ := lead_error fails
  exact ⟨b, by simp, a, by simp [member], takesLater_error (map_eq_error refused)⟩

theorem lead_later_error (fails : lead (takesLater less d a) d bs = .error e) :
    Refuses less (a :: bs) e := by
  obtain ⟨b, member, refused⟩ := lead_error fails
  exact ⟨b, List.mem_cons_of_mem a member, a, List.mem_cons_self, takesLater_error refused⟩

theorem round_error (fails : round less d as b bs = .error e) :
    Refuses less (as ++ b :: bs) e := by
  unfold round at fails
  split at fails
  · rename_i leads
    cases fails
    exact lead_earlier_error leads
  · split at fails
    · cases fails
    · split at fails
      · cases fails
      · split at fails
        · cases fails
        · rename_i k _ _ _ a rest dropped
          have inside : a ∈ as := List.mem_of_mem_drop (dropped ▸ List.mem_cons_self)
          split at fails
          · rename_i leads
            cases fails
            refine (lead_later_error leads).subset (List.cons_subset.mpr ⟨by simp [inside], ?_⟩)
            exact fun x member => by simp [member]
          · split at fails
            · cases fails
            · split at fails <;> cases fails

theorem interleave_error {patience : Nat} {pace : Pace}
    (fails : interleave less d patience pace as bs = .error e) : Refuses less (as ++ bs) e := by
  fun_induction interleave less d patience pace as bs with
  | case1 => cases fails
  | case2 patience a as b bs _ _ _ e' refused =>
    cases fails
    exact ⟨b, by simp, a, by simp, takesLater_error refused⟩
  | case3 patience a as b bs _ _ _ _ ih =>
    have fewer := (List.sublist_cons_self b bs).append_left (a :: as)
    exact (ih (map_eq_error fails)).subset fewer.subset
  | case4 patience a as b bs _ _ _ _ ih =>
    exact (ih (map_eq_error fails)).subset (List.subset_cons_self a _)
  | case5 =>
    rename_i refused
    cases fails
    exact round_error refused
  | case6 => cases fails
  | case7 =>
    -- what is left of the runs after a round are elements of them
    rename_i goes ihLong ihShort
    have rest := map_eq_error fails
    refine Refuses.subset ?_
      (List.Subset.trans (List.subset_append_right _ _) (round_perm goes).subset)
    split at rest
    · exact ihLong rest
    · exact ihShort rest
  | case8 => cases fails

theorem mergeInner_error {patience : Nat} (fails : mergeInner less patience as bs = .error e) :
    Refuses less (as ++ bs) e := by
  unfold mergeInner at fails
  split at fails
  · split at fails
    · cases fails
    · rename_i b rest _
      have fewer := (List.sublist_cons_self b rest).append_left as
      exact (interleave_error (map_eq_error fails)).subset fewer.subset
  · split at fails
    · cases fails
    · rename_i a rest turned
      refine (interleave_error (map_eq_error fails)).subset fun x member => ?_
      rcases List.mem_append.mp member with left | right
      · have inside : x ∈ as.reverse := turned ▸ List.mem_cons_of_mem a left
        exact List.mem_append_left bs (List.mem_reverse.mp inside)
      · exact List.mem_append_right as (List.mem_reverse.mp right)

theorem merge_error {patience : Nat} (fails : merge less patience as bs = .error e) :
    Refuses less (as ++ bs) e := by
  unfold merge at fails
  split at fails
  · cases fails
  · rename_i b rest
    split at fails
    · rename_i leads
      cases fails
      exact lead_earlier_error leads
    · rename_i k _
      split at fails
      · cases fails
      · rename_i a last
        have inside : a ∈ as := List.mem_of_mem_drop (List.mem_of_getLast? last)
        split at fails
        · rename_i leads
          cases fails
          refine (lead_later_error leads).subset (List.cons_subset.mpr ⟨by simp [inside], ?_⟩)
          exact fun x member => List.mem_append_right as (List.mem_reverse.mp member)
        · dsimp only at fails
          split at fails
          · cases fails
          · refine (mergeInner_error (map_eq_error fails)).subset fun x member => ?_
            rcases List.mem_append.mp member with left | right
            · exact List.mem_append_left _ (List.mem_of_mem_drop left)
            · exact List.mem_append_right as (List.mem_of_mem_take right)

end Merging

section Runs

variable {xs : List α}

theorem continued_error {down : Bool} {last : α} (fails : continued less down last xs = .error e) :
    Refuses less (last :: xs) e := by
  fun_induction continued less down last xs with
  | case1 => cases fails
  | case2 last x rest e' refused =>
    cases fails
    exact ⟨x, by simp, last, by simp, refused⟩
  | case3 last x rest _ _ _ ih =>
    exact (ih (map_eq_error fails)).subset (List.subset_cons_self last _)
  | case4 => cases fails

theorem firstRun_error (fails : firstRun less xs = .error e) : Refuses less xs e := by
  unfold firstRun at fails
  split at fails
  · cases fails
  · cases fails
  · rename_i x y rest
    split at fails
    · rename_i refused
      cases fails
      exact ⟨y, by simp, x, by simp, refused⟩
    · exact (continued_error (map_eq_error fails)).subset (List.subset_cons_self x _)

theorem insert_error {sorted : List α} {x : α} (fails : insert less sorted x = .error e) :
    Refuses less (x :: sorted) e := by
  obtain ⟨y, member, refused⟩ := bisect_error (map_eq_error fails)
  exact ⟨x, List.mem_cons_self, y, List.mem_cons_of_mem x member, map_eq_error refused⟩

theorem insertAll_error {sorted : List α} (fails : insertAll less sorted xs = .error e) :
    Refuses less (sorted ++ xs) e := by
  fun_induction insertAll less sorted xs with
  | case1 => cases fails
  | case2 sorted x rest e' refused =>
    cases fails
    refine (insert_error refused).subset (List.Subset.trans ?_ List.perm_middle.symm.subset)
    exact List.cons_subset_cons x (List.subset_append_left sorted rest)
  | case3 sorted x rest inserted goes ih =>
    have parts := ((insert_perm goes).append_right rest).trans List.perm_middle.symm
    exact (ih fails).subset parts.subset

theorem nextRun_error {length : Nat} (fails : nextRun less length xs = .error e) :
    Refuses less xs e := by
  unfold nextRun at fails
  split at fails
  · rename_i refused
    cases fails
    exact firstRun_error refused
  · rename_i first others goes
    refine (insertAll_error (map_eq_error fails)).subset
      (List.Subset.trans ?_ (firstRun_perm goes).subset)
    exact List.append_subset.mpr ⟨List.subset_append_left _ _,
      fun x member => List.mem_append_right first (List.mem_of_mem_take member)⟩

theorem mergeDeeper_error {depth patience : Nat} {runs : List (Run α)}
    (fails : mergeDeeper less depth patience runs = .error e) : Refuses less (elements runs) e := by
  fun_induction mergeDeeper less depth patience runs with
  | case1 patience last before rest _ e' refused =>
    cases fails
    rw [elements_cons, elements_cons, List.append_assoc]
    exact (merge_error refused).subset (List.subset_append_right _ _)
  | case2 patience last before rest _ items patience' goes ih =>
    refine (ih fails).subset ?_
    simp only [elements_cons, List.append_assoc]
    exact ((merge_perm goes).append_left _).subset
  | case3 => cases fails
  | case4 => cases fails
  | case5 => cases fails

theorem collect_error {length total fuel start patience : Nat} {runs : List (Run α)}
    (fails : collect less length total fuel start patience runs xs = .error e) :
    Refuses less (elements runs ++ xs) e := by
  fun_induction collect less length total fuel start patience runs xs with
  | case1 => cases fails
  | case2 => cases fails
  | case3 =>
    rename_i refused
    cases fails
    exact (nextRun_error refused).subset (List.subset_append_right _ _)
  | case4 =>
    rename_i refused
    cases fails
    exact (mergeDeeper_error refused).subset (List.subset_append_left _ _)
  | case5 =>
    rename_i run others next _ _ _ merged ih
    refine (ih fails).subset ?_
    rw [elements_cons, List.append_assoc]
    have parts := (mergeDeeper_perm merged).append_right (run ++ others)
    exact (parts.trans ((nextRun_perm next).append_left _)).subset

theorem mergeAll_error {patience : Nat} {runs : List (Run α)}
    (fails : mergeAll less patience runs = .error e) : Refuses less (elements runs) e := by
  fun_induction mergeAll less patience runs with
  | case1 => cases fails
  | case2 => cases fails
  | case3 patience last before =>
    refine (merge_error (map_eq_error fails)).subset ?_
    simp [elements]
  | case4 =>
    rename_i refused
    cases fails
    refine (merge_error refused).subset ?_
    simp only [elements_cons, List.append_assoc]
    intro x member
    simp only [List.mem_append] at member ⊢
    tauto
  | case5 patience last middle first rest _ items patience' goes ih =>
    refine (ih fails).subset ?_
    simp only [elements_cons, List.append_assoc]
    rw [← List.append_assoc first.items]
    exact (((merge_perm goes).append_right _).append_left _).subset
  | case6 =>
    rename_i refused
    cases fails
    refine (merge_error refused).subset ?_
    simp only [elements_cons, List.append_assoc]
    intro x member
    simp only [List.mem_append] at member ⊢
    tauto
  | case7 patience last middle first rest _ items patience' goes ih =>
    refine (ih fails).subset ?_
    simp only [elements_cons, List.append_assoc]
    exact (((merge_perm goes).append_left _).append_left _).subset

/-- When sorting fails, it is for two elements of the list. -/
theorem sort_error (fails : sort less xs = .error e) : Refuses less xs e := by
  unfold sort at fails
  split at fails
  · rename_i refused
    cases fails
    exact collect_error refused
  · rename_i runs patience goes
    exact (mergeAll_error fails).subset (collect_perm goes).subset

end Runs

end RootFinder.Sorting
