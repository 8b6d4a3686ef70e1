import Mathlib
import RootFinder.Proofs.Binary64.Order
import RootFinder.Proofs.Verification.Largest

/-! What the verdict on roots says, for doubles, however roots are substituted as long as residuals
have no sign. Looking for the largest residual passes over what is not a number, unless it comes
first, where it stays; so a verdict speaks for all residuals only when all of them are numbers. -/
namespace RootFinder.Verification

open Approximate
open Binary64 (isFinite place sign? view)

def key (x : Float) : ℤ ×ₗ ℤ ×ₗ ℤ := place (view x)

section Order

variable {xs : List Float}

theorem ordered (numbers : ∀ x ∈ xs, x.isNaN = false) : Ordered key xs := by
  intro x left y right
  change decide (x < y) = _
  rw [decide_eq_decide, Binary64.lt_iff_place]
  exact ⟨fun below => below.2.2, fun below => ⟨numbers x left, numbers y right, below⟩⟩

theorem le_iff_key {x y : Float} (left : x.isNaN = false) (right : y.isNaN = false) :
    x ≤ y ↔ key x ≤ key y := by
  rw [Binary64.le_iff_place]
  exact ⟨fun h => h.2.2, fun h => ⟨left, right, h⟩⟩

end Order

section Largest

variable {first : Float} {rest : List Float}

theorem largest_undefined (undefined : first.isNaN = true) : largest first rest = first := by
  induction rest with
  | nil => rfl
  | cons next rest ih =>
    have skipped : less first next = false := by
      change decide (first < next) = false
      rw [decide_eq_false_iff_not, Binary64.lt_iff_place, undefined]
      exact fun below => nomatch below.1
    change largest (if less first next then next else first) rest = first
    rw [skipped, if_neg Bool.false_ne_true]
    exact ih

/-- After a number, what is not one is passed over. -/
theorem largest_filter (number : first.isNaN = false) :
    largest first rest = largest first (rest.filter (!·.isNaN)) := by
  induction rest generalizing first with
  | nil => rfl
  | cons next rest ih =>
    change largest (if less first next then next else first) rest = _
    cases defined : next.isNaN with
    | false =>
      have kept : (if less first next then next else first).isNaN = false := by
        split <;> assumption
      rw [ih kept, List.filter_cons_of_pos (by rw [defined]; rfl)]
      rfl
    | true =>
      have skipped : less first next = false := by
        change decide (first < next) = false
        rw [decide_eq_false_iff_not, Binary64.lt_iff_place, defined]
        exact fun below => nomatch below.2.1
      rw [skipped, if_neg Bool.false_ne_true, ih number,
        List.filter_cons_of_neg (by rw [defined]; exact Bool.false_ne_true)]

end Largest

/-- A number without a sign, or not a number. -/
def Unsigned (x : Float) : Prop := x.isNaN = false → sign? (view x) = some .positive

/-- The first residual, if there is one, is a number. -/
def FirstDefined (residuals : List Float) : Prop := ∀ ρ ∈ residuals.head?, ρ.isNaN = false

section Worst

variable {residuals others : List Float} {bound : Float}

/-- After a number, the largest residual is the largest of those that are numbers. -/
theorem isLargest_worst (some : residuals ≠ []) (first : FirstDefined residuals) :
    IsLargest key (residuals.filter (!·.isNaN)) (worstOf residuals) := by
  obtain ⟨ρ, rest, rfl⟩ := List.exists_cons_of_ne_nil some
  have number : ρ.isNaN = false := first ρ rfl
  have kept : (ρ :: rest).filter (!·.isNaN) = ρ :: rest.filter (!·.isNaN) :=
    List.filter_cons_of_pos (by rw [number]; rfl)
  have numbers : ∀ x ∈ (ρ :: rest).filter (!·.isNaN), x.isNaN = false := by
    intro x member
    simpa using (List.mem_filter.mp member).2
  have found := ordered numbers
  rw [kept] at found ⊢
  rw [worstOf, largest_filter number]
  exact isLargest_largest found

theorem worst_undefined (undefined : ¬ FirstDefined residuals) :
    (worstOf residuals).isNaN = true := by
  cases residuals with
  | nil => exact absurd (fun ρ head => nomatch head) undefined
  | cons first rest =>
    have unset : first.isNaN = true := by
      by_contra number
      refine undefined fun ρ head => ?_
      obtain rfl : first = ρ := Option.some.inj head
      simpa using number
    rw [worstOf, largest_undefined unset]
    exact unset

theorem worst_spec (some : residuals ≠ []) (first : FirstDefined residuals) :
    worstOf residuals ∈ residuals ∧
      ∀ ρ ∈ residuals, ρ.isNaN = true ∨ ρ ≤ worstOf residuals := by
  have found := isLargest_worst some first
  obtain ⟨member, number⟩ := List.mem_filter.mp found.mem
  refine ⟨member, fun ρ inside => ?_⟩
  cases defined : ρ.isNaN with
  | true => exact .inl rfl
  | false =>
    have below := found.bound ρ (List.mem_filter.mpr ⟨inside, by rw [defined]; rfl⟩)
    exact .inr ((le_iff_key defined (by simpa using number)).mpr below)

/-- The largest residual is within a bound exactly when the first one is a number and all that are
numbers are within it. -/
theorem worst_le_iff (nonnegative : 0 ≤ bound) : worstOf residuals ≤ bound ↔
    FirstDefined residuals ∧ ∀ ρ ∈ residuals, ρ.isNaN = true ∨ ρ ≤ bound := by
  have defined : bound.isNaN = false := (Binary64.le_iff_place.mp nonnegative).2.1
  by_cases empty : residuals = []
  · subst empty
    have zero : worstOf [] = (0 : Float) := rfl
    simp [zero, nonnegative, FirstDefined]
  · by_cases first : FirstDefined residuals
    · have found := isLargest_worst empty first
      have number : (worstOf residuals).isNaN = false := by
        simpa using (List.mem_filter.mp found.mem).2
      rw [le_iff_key number defined, found.le_iff]
      have each (ρ : Float) : (ρ ∈ residuals.filter (!·.isNaN) → key ρ ≤ key bound) ↔
          (ρ ∈ residuals → ρ.isNaN = true ∨ ρ ≤ bound) := by
        rw [List.mem_filter]
        cases number : ρ.isNaN with
        | true => simp
        | false => simp [le_iff_key number defined]
      simp only [each, first, true_and]
    · have undefined := worst_undefined first
      rw [Binary64.le_iff_place, undefined]
      exact ⟨fun below => absurd below.1 (by decide), fun all => absurd all.1 first⟩

/-- Lists with the same residuals have the same largest one, if both or neither begin with a number;
residuals have no sign. -/
theorem worst_perm (same : residuals.Perm others)
    (first : FirstDefined residuals ↔ FirstDefined others)
    (unsigned : ∀ ρ ∈ residuals, Unsigned ρ) :
    worstOf residuals = worstOf others := by
  by_cases empty : residuals = []
  · subst empty
    rw [same.nil_eq]
  by_cases defined : FirstDefined residuals
  · have left := isLargest_worst empty defined
    have right := isLargest_worst (fun none => empty (none ▸ same).eq_nil) (first.mp defined)
    have back := right.perm (same.filter _).symm
    have positive {x : Float} (member : x ∈ residuals.filter (!·.isNaN)) :
        sign? (view x) = some .positive := by
      rw [List.mem_filter] at member
      exact unsigned x member.1 (by simpa using member.2)
    have place := Binary64.eq_of_place (left.key_eq back)
      ((positive left.mem).trans (positive back.mem).symm)
    rw [← Binary64.ofView_view (worstOf residuals), place, Binary64.ofView_view]
  · have left := Binary64.isNaN_iff.mp (worst_undefined defined)
    have right := Binary64.isNaN_iff.mp (worst_undefined (mt first.mpr defined))
    rw [← Binary64.ofView_view (worstOf residuals), left, ← right, Binary64.ofView_view]

end Worst

section Residual

theorem unsigned_make {rank : Nat} (bound : rank ≤ Binary64.infinity) :
    Unsigned (Binary64.make false rank) := by
  intro number
  rcases Binary64.view_magnitude bound with same | same | ⟨m, e, h, same⟩ <;> rw [same] <;> rfl

theorem unsigned_undefined : Unsigned (Binary64.ofParts .undefined) :=
  fun number => absurd number (by decide +kernel)

theorem unsigned_distance (x y : Binary64.Exact) : Unsigned (x.distance y) := by
  unfold Binary64.Exact.distance
  split
  · exact unsigned_make (Nat.min_le_left _ _)
  · exact unsigned_undefined
  · exact unsigned_undefined
  · exact unsigned_make le_rfl

/-- A residual is a magnitude. -/
theorem unsigned_residual (cs : List Float) (root : Root Float) :
    Unsigned (Substitution.residual cs root) := by
  cases root with
  | real x =>
    change Unsigned (Binary64.Exact.magnitude _)
    unfold Binary64.Exact.magnitude
    split
    · exact unsigned_make (Nat.min_le_left _ _)
    · exact unsigned_make le_rfl
    · exact unsigned_undefined
  | complex re im =>
    change Unsigned (Binary64.Point.magnitude _)
    unfold Binary64.Point.magnitude
    split
    · exact unsigned_make le_rfl
    · exact unsigned_distance _ _

/-- Residuals have no sign. -/
class LawfulSubstitution [Substitution Float] : Prop where
  unsigned : ∀ cs root, Unsigned (Substitution.residual cs root)

instance : LawfulSubstitution := ⟨unsigned_residual⟩

end Residual

section Scale

/-- The largest of one and the magnitudes of the coefficients. -/
structure IsScale (cs : List Float) (s : Float) : Prop where
  one_le : 1 ≤ s
  bound : ∀ c ∈ cs, c.abs ≤ s
  attained : s = 1 ∨ ∃ c ∈ cs, s = c.abs

variable {first : Float} {rest : List Float}

theorem isScale_scale (finite : ∀ c ∈ first :: rest, isFinite c = true) :
    IsScale (first :: rest) (scale first rest) := by
  have magnitudes (c : Float) (member : c ∈ first :: rest) : c.abs.isNaN = false := by
    have number : isFinite c.abs = true := Binary64.isFinite_abs (finite c member)
    rw [Binary64.isFinite_iff_view] at number
    rw [Binary64.isNaN_eq_false]
    intro undefined
    rw [undefined] at number
    cases number
  have numbers : ∀ x ∈ Scalar.whole 1 :: (first :: rest).map magnitude, x.isNaN = false := by
    intro x member
    rcases List.mem_cons.mp member with rfl | member
    · decide +kernel
    · obtain ⟨c, inside, rfl⟩ := List.mem_map.mp member
      exact magnitudes c inside
  have found := isLargest_scale (ordered numbers)
  have below (x : Float) (member : x ∈ Scalar.whole 1 :: (first :: rest).map magnitude) :
      x ≤ scale first rest :=
    (le_iff_key (numbers x member) (numbers _ found.mem)).mpr (found.bound x member)
  refine ⟨below _ List.mem_cons_self, fun c member => ?_, ?_⟩
  · exact below _ (List.mem_cons_of_mem _ (List.mem_map_of_mem member))
  · rcases List.mem_cons.mp found.mem with one | member
    · exact .inl one
    · obtain ⟨c, inside, same⟩ := List.mem_map.mp member
      exact .inr ⟨c, inside, same.symm⟩

theorem IsScale.isFinite {cs : List Float} {s : Float} (h : IsScale cs s)
    (finite : ∀ c ∈ cs, isFinite c = true) : isFinite s = true := by
  rcases h.attained with rfl | ⟨c, member, rfl⟩
  · decide +kernel
  · exact Binary64.isFinite_abs (finite c member)

theorem IsScale.pos {cs : List Float} {s : Float} (h : IsScale cs s) : 0 < s := by
  obtain ⟨-, number, below⟩ := Binary64.le_iff_place.mp h.one_le
  have zero : place (view 0) < place (view 1) := by decide +kernel
  exact Binary64.lt_iff_place.mpr ⟨by decide +kernel, number, zero.trans_le below⟩

end Scale

section Verdict

variable [Substitution Float] {cs : List Float} {roots others : List (Root Float)}
  {tol bound : Float} {v w : Verification Float}

/-- What a report says about the roots, given the bound on residuals. -/
structure Verdict (cs : List Float) (roots : List (Root Float)) (bound : Float)
    (v : Verification Float) : Prop where
  residuals : v.residuals = roots.map (Substitution.residual cs)
  passed : v.passed = true ↔
    FirstDefined v.residuals ∧ ∀ ρ ∈ v.residuals, ρ.isNaN = true ∨ ρ ≤ bound
  worst : FirstDefined v.residuals → v.residuals ≠ [] →
    v.worst ∈ v.residuals ∧ ∀ ρ ∈ v.residuals, ρ.isNaN = true ∨ ρ ≤ v.worst
  expected : v.expected + 1 = cs.length
  found : v.found = roots.length
  complete : v.complete = true ↔ v.found = v.expected

/-- Two reports on the same roots in another order. The largest residual, and with it whether the
roots pass, depends on the order only through whether the first residual is a number. -/
structure Reordered (v w : Verification Float) : Prop where
  residuals : v.residuals.Perm w.residuals
  expected : v.expected = w.expected
  found : v.found = w.found
  complete : v.complete = w.complete
  agree : (FirstDefined v.residuals ↔ FirstDefined w.residuals) →
    v.passed = w.passed ∧ v.worst = w.worst

theorem verdict_check {first : Float} {rest : List Float}
    (checked : check (first :: rest) roots tol = .ok v) (nonnegative : 0 ≤ tol * scale first rest) :
    Verdict (first :: rest) roots (tol * scale first rest) v := by
  cases checked
  exact ⟨rfl, Binary64.atMost_iff.trans (worst_le_iff nonnegative),
    fun first some => worst_spec some first, rfl, rfl, beq_iff_eq⟩

theorem reordered_check [LawfulSubstitution] (left : check cs roots tol = .ok v)
    (right : check cs others tol = .ok w) (same : roots.Perm others) : Reordered v w := by
  cases cs with
  | nil => cases left
  | cons first rest =>
    cases left
    cases right
    have residuals := same.map (Substitution.residual (first :: rest))
    refine ⟨residuals, rfl, same.length_eq, ?_, fun agree => ?_⟩
    · exact congrArg (· == rest.length) same.length_eq
    · have unsigned : ∀ ρ ∈ roots.map (Substitution.residual (first :: rest)), Unsigned ρ := by
        intro ρ member
        obtain ⟨root, -, rfl⟩ := List.mem_map.mp member
        exact LawfulSubstitution.unsigned _ root
      have worst := worst_perm residuals agree unsigned
      exact ⟨congrArg (atMost · (tol * scale first rest)) worst, worst⟩

theorem Verdict.passed_of_numbers (h : Verdict cs roots bound v)
    (numbers : ∀ ρ ∈ v.residuals, ρ.isNaN = false) :
    v.passed = true ↔ ∀ ρ ∈ v.residuals, ρ ≤ bound := by
  have first : FirstDefined v.residuals := fun ρ head => numbers ρ (List.mem_of_mem_head? head)
  rw [h.passed]
  constructor
  · intro all ρ member
    refine (all.2 ρ member).resolve_left ?_
    rw [numbers ρ member]
    exact Bool.false_ne_true
  · exact fun all => ⟨first, fun ρ member => .inr (all ρ member)⟩

/-- However roots are substituted, for finite coefficients and a tolerance not below zero there is a
report. When all residuals are numbers, the roots pass exactly if none exceeds the tolerance scaled
by the largest coefficient, and their order is of no consequence. One that is not a number counts
only in the first place. -/
theorem check_verdict [LawfulSubstitution] (some : cs ≠ []) (finite : ∀ c ∈ cs, isFinite c = true)
    (nonnegative : 0 ≤ tol) :
    ∃ s v, IsScale cs s ∧ check cs roots tol = .ok v ∧ Verdict cs roots (tol * s) v ∧
      ((∀ ρ ∈ v.residuals, ρ.isNaN = false) →
        (v.passed = true ↔ ∀ ρ ∈ v.residuals, ρ ≤ tol * s)) ∧
      ∀ others, roots.Perm others → ∃ w, check cs others tol = .ok w ∧ Reordered v w := by
  obtain ⟨first, rest, rfl⟩ := List.exists_cons_of_ne_nil some
  have report (roots : List (Root Float)) : ∃ v, check (first :: rest) roots tol = .ok v :=
    ⟨_, rfl⟩
  have scaled := isScale_scale finite
  have bound := Binary64.zero_le_mul nonnegative scaled.pos (scaled.isFinite finite)
  obtain ⟨v, checked⟩ := report roots
  have verdict := verdict_check checked bound
  refine ⟨scale first rest, v, scaled, checked, verdict, verdict.passed_of_numbers, ?_⟩
  intro others same
  obtain ⟨w, again⟩ := report others
  exact ⟨w, again, reordered_check checked again same⟩

end Verdict

/-- The two roots of `x ^ 2 - 3 * x + 2`, with the tolerance that is usual. -/
theorem check_verdict_quadratic : ∃ s v, IsScale [1, -3, 2] s ∧
    check [1, -3, 2] [Root.real 2, Root.real 1] tolerance = .ok v ∧
    Verdict [1, -3, 2] [Root.real 2, Root.real 1] (tolerance * s) v := by
  obtain ⟨s, v, scaled, checked, verdict, -⟩ := check_verdict
    (List.cons_ne_nil (1 : Float) [-3, 2]) (by decide +kernel)
    (by decide +kernel : (0 : Float) ≤ tolerance)
  exact ⟨s, v, scaled, checked, verdict⟩

/-- A residual that is not a number is within no bound, but after another one it does not show:
`2` and an undefined number pass as roots of `x ^ 2 - 3 * x + 2`. -/
theorem not_passed_iff : ¬ ∀ (cs : List Float) (roots : List (Root Float)) (tol s : Float)
    (v : Verification Float), cs ≠ [] → (∀ c ∈ cs, isFinite c = true) → 0 ≤ tol → IsScale cs s →
      check cs roots tol = .ok v → (v.passed = true ↔ ∀ ρ ∈ v.residuals, ρ ≤ tol * s) := by
  intro always
  have finite : ∀ c ∈ [1, (-3 : Float), 2], isFinite c = true := by decide +kernel
  have nonnegative : (0 : Float) ≤ tolerance := by decide +kernel
  obtain ⟨v, checked⟩ :
      ∃ v, check [1, (-3 : Float), 2] [.real 2, .real Float.nan] tolerance = .ok v := ⟨_, rfl⟩
  have verdict := verdict_check checked
    (by decide +kernel : (0 : Float) ≤ tolerance * scale 1 [-3, 2])
  have first : Substitution.residual [1, (-3 : Float), 2] (.real 2) = 0 := by decide +kernel
  have second : Substitution.residual [1, (-3 : Float), 2] (.real Float.nan) = Float.nan := by
    decide +kernel
  have listed : v.residuals = [0, Float.nan] := by
    rw [verdict.residuals, List.map_cons, List.map_cons, List.map_nil, first, second]
  have passed : v.passed = true := by
    rw [verdict.passed, listed]
    refine ⟨fun ρ head => ?_, fun ρ member => ?_⟩
    · obtain rfl : 0 = ρ := Option.some.inj head
      decide +kernel
    · simp only [List.mem_cons, List.not_mem_nil, or_false] at member
      rcases member with rfl | rfl
      · exact .inr (by decide +kernel)
      · exact .inl (by decide +kernel)
  have equiv := always _ _ _ _ v (List.cons_ne_nil _ _) finite nonnegative (isScale_scale finite)
    checked
  have below := equiv.mp passed Float.nan (by simp [listed])
  exact absurd (Binary64.le_iff_place.mp below).1 (by decide +kernel)

end RootFinder.Verification
