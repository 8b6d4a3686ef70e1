import Mathlib
import RootFinder.Proofs.Binary64.Negation
import RootFinder.Proofs.Newton.Exact
import RootFinder.Proofs.Newton.Search
import RootFinder.Proofs.Strategy.Congruence

/-! Reflection. The search for the roots of `p (-x)` from a seed goes like the search for those of `p`
from the opposite seed, point by opposite point. But the seeds come in the opposite order, so that of
several roots within the tolerance not the opposite ones need be kept. -/
namespace RootFinder.Newton

open Scalar Approximate
open RootFinder.Polynomial (accumulate evaluate)

section Statement

variable {α : Type} [Neg α]

/-- A number, or its opposite. -/
def signed (negative : Bool) (a : α) : α := if negative then -a else a

/-- The polynomial at the opposite point: odd powers have the opposite coefficients. -/
def reflect : List α → List α
  | [] => []
  | c :: rest => signed (rest.length % 2 == 1) c :: reflect rest

theorem length_reflect (c : List α) : (reflect c).length = c.length := by
  induction c with
  | nil => rfl
  | cons a rest ih => rw [reflect, List.length_cons, List.length_cons, ih]

theorem odd_succ (n : Nat) : ((n + 1) % 2 == 1) = !(n % 2 == 1) := by
  rcases Nat.mod_two_eq_zero_or_one n with even | odd
  · rw [even, show (n + 1) % 2 = 1 by omega]
    rfl
  · rw [odd, show (n + 1) % 2 = 0 by omega]
    rfl

/-- The vector is that of the polynomial at the opposite point. -/
theorem eval_reflect {R : Type} [CommRing R] (c : List R) (x : R) :
    (RootFinder.Polynomial.formal (reflect c)).eval x =
      (RootFinder.Polynomial.formal c).eval (-x) := by
  induction c with
  | nil => simp [reflect, RootFinder.Polynomial.formal]
  | cons a rest ih =>
    rw [reflect, RootFinder.Polynomial.eval_formal_cons, RootFinder.Polynomial.eval_formal_cons, ih,
      length_reflect]
    congr 1
    rcases Nat.even_or_odd rest.length with even | odd
    · rw [even.neg_pow, Nat.even_iff.mp even]
      rfl
    · rw [odd.neg_pow, Nat.odd_iff.mp odd, mul_neg, ← neg_mul]
      rfl

end Statement

section Signs

variable {α : Type} [Add α] [Sub α] [Mul α] [Neg α] [Approximate α]

/-- Operations commute with negation. Numbers are related by `R false` if they are the same, and by
`R true` if they are opposite; calculating with opposite numbers gives opposite numbers, magnitudes
and tests for zero do not see the sign, and to subtract the opposite of a number is to add it. -/
structure RuleOfSigns (R : Bool → α → α → Prop) : Prop where
  refl (a : α) : R false a a
  neg (a : α) : R true a (-a)
  symm {s : Bool} {a b : α} : R s a b → R s b a
  zero : R true (whole 0 : α) (whole 0)
  add {s : Bool} {a a' b b' : α} : R s a a' → R s b b' → R s (a + b) (a' + b')
  sub {s : Bool} {a a' b b' : α} : R s a a' → R s b b' → R s (a - b) (a' - b')
  mul {s t : Bool} {a a' b b' : α} : R s a a' → R t b b' → R (s ^^ t) (a * b) (a' * b')
  quotient {s t : Bool} {a a' b b' : α} : R s a a' → R t b b' →
    Agree (R (s ^^ t)) (quotient a b) (quotient a' b')
  power {s : Bool} {a a' : α} (n : Nat) : R s a a' →
    Agree (R (s && n % 2 == 1)) (power a n) (power a' n)
  magnitude {s : Bool} {a a' : α} : R s a a' → R false (magnitude a) (magnitude a')
  less {a a' b b' : α} : R false a a' → R false b b' → less a b = less a' b'
  same {a a' b b' : α} : R false a a' → R false b b' → same a b = same a' b'
  isZero {s : Bool} {a a' : α} : R s a a' → isZero a = isZero a'
  opposite {a b b' : α} : R true b b' → R false (a - b') (a + b)
  swap (a b : α) : R false (a + b) (b + a)

variable {R : Bool → α → α → Prop} (signs : RuleOfSigns R) {c : List α} {x x' : α}
include signs

theorem RuleOfSigns.coefficient (negative : Bool) (a : α) : R negative a (signed negative a) := by
  cases negative with
  | false => exact signs.refl a
  | true => exact signs.neg a

/-- At the opposite point the reflected polynomial has the same value and the opposite slope. -/
theorem accumulate_reflected (point : R true x x') {value value' slope slope' : α}
    (values : R false value value') (slopes : R true slope slope') :
    Agree (fun p p' => R false p.1 p'.1 ∧ R true p.2 p'.2) (accumulate x c value slope)
      (accumulate x' (reflect c) value' slope') := by
  induction c generalizing value value' slope slope' with
  | nil => exact .ok ⟨values, slopes⟩
  | cons a rest ih =>
    cases rest with
    | nil =>
      refine (signs.power 0 point).bind fun p p' one => ?_
      exact .ok ⟨signs.add values (signs.mul (signs.refl a) one), slopes⟩
    | cons b rest =>
      rw [reflect, reflect, accumulate, accumulate, length_reflect, List.length_cons]
      refine (signs.power _ point).bind fun p p' high => ?_
      refine (signs.power _ point).bind fun q q' low => ?_
      have leading := signs.coefficient ((rest.length + 1) % 2 == 1) a
      have factor := signs.mul (signs.refl (whole (rest.length + 1))) leading
      have term := signs.mul leading high
      have rise := signs.mul factor low
      -- the signs of coefficient and power cancel in the value, and one is left in the slope
      have left : (false ^^ (rest.length + 1) % 2 == 1 ^^ true && rest.length % 2 == 1) = true := by
        rw [odd_succ, Bool.false_xor, Bool.true_and, Bool.not_xor_self]
      rw [Bool.true_and, Bool.xor_self] at term
      rw [left] at rise
      exact ih (signs.add values term) (signs.add slopes rise)

theorem approach_reflected (fuel : Nat) (point : R true x x') :
    Agree (Option.Rel (R true)) (approach c fuel x) (approach (reflect c) fuel x') := by
  refine approach_simulated (fun y y' opposite => ?_) fuel point
  have values := accumulate_reflected signs (c := c) opposite (signs.refl (whole 0)) signs.zero
  refine values.imp fun p p' ⟨value, slope⟩ => ?_
  refine ⟨signs.less (signs.magnitude value) (signs.refl _), signs.isZero slope, ?_⟩
  refine (signs.quotient value slope).imp fun s s' step => ?_
  have next := signs.sub opposite step
  exact ⟨next, signs.less (signs.magnitude (signs.sub next opposite)) (signs.refl _)⟩

/-- Opposite seeds lead to opposite points, one to a point if the other does. -/
theorem leads_reflected {seed seed' : α} (opposite : R true seed seed') :
    (∀ z, Leads c seed z → ∃ z', Leads (reflect c) seed' z' ∧ R true z z') ∧
      ∀ z', Leads (reflect c) seed' z' → ∃ z, Leads c seed z ∧ R true z z' := by
  have ends := approach_reflected signs (c := c) patience opposite
  unfold Leads
  generalize approach c patience seed = e at ends
  generalize approach (reflect c) patience seed' = e' at ends
  cases ends with
  | error fault => exact ⟨nofun, nofun⟩
  | ok related =>
    cases related with
    | none => exact ⟨nofun, nofun⟩
    | some related =>
      constructor
      · rintro _ ⟨⟩
        exact ⟨_, rfl, related⟩
      · rintro _ ⟨⟩
        exact ⟨_, rfl, related⟩

/-- With each seed the opposite one is tried. -/
theorem seeds_reflected {seed : α} (member : seed ∈ seeds) : ∃ other ∈ seeds, R true seed other := by
  rcases List.mem_append.mp member with below | above
  · obtain ⟨n, inside, rfl⟩ := List.mem_map.mp below
    have also : ∀ n ∈ [10, 8, 6, 4, 2], n ∈ [0, 2, 4, 6, 8, 10] := by decide
    exact ⟨whole n, List.mem_append_right _ (List.mem_map_of_mem (also n inside)),
      signs.symm (signs.neg _)⟩
  · obtain ⟨n, inside, rfl⟩ := List.mem_map.mp above
    by_cases none : n = 0
    · subst none
      exact ⟨whole 0, member, signs.zero⟩
    · have also : ∀ n ∈ [0, 2, 4, 6, 8, 10], n ≠ 0 → n ∈ [10, 8, 6, 4, 2] := by decide
      exact ⟨-whole n, List.mem_append_left _ (List.mem_map.mpr ⟨n, also n inside none, rfl⟩),
        signs.neg _⟩

theorem atMost_reflected {a a' b : α} (same : R false a a') :
    atMost (magnitude a) b = atMost (magnitude a') b := by
  have magnitudes := signs.magnitude same
  rw [atMost, atMost, signs.less magnitudes (signs.refl b), signs.same magnitudes (signs.refl b)]

end Signs

section Arithmetics

open RootFinder.Polynomial (Same)

theorem signed_mul_double (s t : Bool) (x y : Float) :
    signed s x * signed t y = signed (s ^^ t) (x * y) := by
  cases s <;> cases t <;>
    simp [signed, Binary64.mul_neg_left, Binary64.mul_neg_right, Binary64.neg_twice]

theorem quotient_signed_double (s t : Bool) (x y : Float) :
    Binary64.quotient (signed s x) (signed t y) =
      (Binary64.quotient x y).map (signed (s ^^ t)) := by
  have kept (r : Except Fault Float) : r.map (signed false) = r := by
    cases r <;> rfl
  have both (r : Except Fault Float) : (r.map (- ·)).map (- ·) = r := by
    cases r with
    | error e => rfl
    | ok z => exact congrArg Except.ok (Binary64.neg_twice z)
  cases s <;> cases t
  · exact (kept _).symm
  · exact Binary64.quotient_neg_right x y
  · exact Binary64.quotient_neg_left x y
  · calc Binary64.quotient (-x) (-y)
      _ = ((Binary64.quotient x y).map (- ·)).map (- ·) := by
        rw [Binary64.quotient_neg_right, Binary64.quotient_neg_left]
      _ = (Binary64.quotient x y).map (signed false) := by rw [both, kept]

theorem power_signed_double (s : Bool) (x : Float) (n : Nat) :
    Binary64.power (signed s x) n = (Binary64.power x n).map (signed (s && n % 2 == 1)) := by
  cases s with
  | false =>
    change Binary64.power x n = _
    cases Binary64.power x n <;> rfl
  | true => exact Binary64.power_neg x n

/-- Doubles keep to the rule of signs, apart from the sign of a zero. -/
theorem signs_doubles : RuleOfSigns fun s (x y : Float) => Same y (signed s x) where
  refl _ := .inl rfl
  neg _ := .inl rfl
  symm {s a b} h := by
    cases s with
    | false => exact h.symm
    | true => exact Binary64.same_neg_comm h
  zero := .inr ⟨by decide +kernel, by decide +kernel⟩
  add {s a a' b b'} left right := by
    have sum := Binary64.same_add left right
    cases s with
    | false => exact sum
    | true => exact sum.trans (Binary64.same_add_neg a b)
  sub {s a a' b b'} left right := by
    have difference := Binary64.same_sub left right
    cases s with
    | false => exact difference
    | true => exact difference.trans (Binary64.same_sub_neg a b)
  mul {s t a a' b b'} left right := by
    rw [← signed_mul_double]
    exact Binary64.same_mul left right
  quotient {s t a a' b b'} left right := by
    have ratios := Binary64.same_quotient left right
    rw [quotient_signed_double] at ratios
    exact ratios.of_map
  power {s a a'} n base := by
    have powers := Binary64.same_power n base
    rw [power_signed_double] at powers
    exact powers.of_map
  magnitude {s a a'} h := by
    have magnitudes := Binary64.same_abs h
    cases s with
    | false => exact magnitudes
    | true => rwa [signed, if_pos rfl, Binary64.magnitude_neg] at magnitudes
  less left right := (Binary64.lt_same left right).symm
  same left right := (Binary64.beq_same left right).symm
  isZero {s a a'} h := by
    rw [isZero_eq, isZero_eq, h.isZero_eq]
    cases s with
    | false => rfl
    | true => exact (Binary64.isZero_neg a).symm
  opposite {a b b'} h := by
    have sum := Binary64.same_sub (.inl rfl : Same a a) h
    rw [signed, if_pos rfl, Binary64.sub_opposite] at sum
    exact sum.symm
  swap a b := .inl (Binary64.add_swap b a)

/-- Exact numbers keep to the rule of signs. -/
theorem signs_reals : RuleOfSigns fun s (x y : ℝ) => y = signed s x where
  refl _ := rfl
  neg _ := rfl
  symm {s a b} h := by cases s <;> simp [signed, h]
  zero := by simp [signed]
  add {s a a' b b'} left right := by
    cases s <;> simp only [left, right, signed] <;> simp [add_comm]
  sub {s a a' b b'} left right := by
    cases s
    · rw [left, right]
      rfl
    · rw [left, right]
      exact (neg_sub' a b).symm
  mul {s t a a' b b'} left right := by
    cases s <;> cases t <;> simp [left, right, signed]
  quotient {s t a a' b b'} left right := by
    by_cases zero : b = 0
    · have zero' : b' = 0 := by cases t <;> simp [right, zero, signed]
      rw [zero, zero']
      simp only [Approximate.quotient, if_true]
      exact .error _
    · have other : b' ≠ 0 := by cases t <;> simp [right, zero, signed]
      rw [Reals.quotient_eq zero, Reals.quotient_eq other]
      refine .ok ?_
      cases s <;> cases t <;> simp [left, right, signed, neg_div, div_neg]
  power {s a a'} n base := by
    refine .ok ?_
    cases s with
    | false => rw [base]; rfl
    | true =>
      rw [base, Bool.true_and]
      rcases Nat.even_or_odd n with even | odd
      · rw [Nat.even_iff.mp even]
        exact even.neg_pow a
      · rw [Nat.odd_iff.mp odd]
        exact odd.neg_pow a
  magnitude {s a a'} h := by
    cases s <;> simp [h, signed]
  less left right := by rw [left, right]; rfl
  same left right := by rw [left, right]; rfl
  isZero {s a a'} h := by
    rw [Bool.eq_iff_iff, Reals.isZero_iff, Reals.isZero_iff]
    cases s <;> simp [h, signed]
  opposite {a b b'} h := by simp [h, signed]
  swap a b := add_comm b a

theorem measured_reals : Measured fun _ : ℝ => True where
  power_fault h := nomatch h
  quotient_ok {x y} other := by
    refine ⟨x / y, Reals.quotient_eq fun zero => ?_⟩
    rw [Reals.isZero_iff.mpr zero] at other
    cases other
  add _ := ⟨trivial, trivial⟩
  mul _ := ⟨trivial, trivial⟩
  power _ _ _ := trivial
  near _ := trivial
  self {x} _ := by
    rw [Far, Reals.less_iff, Reals.magnitude_eq, sub_self, abs_zero, tolerance_eq]
    norm_num
  compare {x y} _ _ near := by
    rw [Far, Reals.less_iff] at near
    exact Reals.atMost_iff.mpr (not_lt.mp near)

end Arithmetics

section Reflection

open RootFinder.Polynomial (Same)

variable {α : Type} [Add α] [Sub α] [Mul α] [Neg α] [Approximate α]

/-- The search respects reflection. In an arithmetic that keeps to the rule of signs, and whose finite
numbers compare, the roots found of a polynomial and those found of its reflection are opposite to
each other, to the tolerance: for each of the ones there is one of the others. -/
theorem search_reflected {R : Bool → α → α → Prop} (signs : RuleOfSigns R) {finite : α → Prop}
    (measured : Measured finite) {c : List α} (degree : 2 ≤ c.length) :
    ∃ found mirrored : List α,
      search c = .ok (found.map .real) ∧ search (reflect c) = .ok (mirrored.map .real) ∧
      (∀ r ∈ found, ∃ r' ∈ mirrored, atMost (magnitude (r + r')) tolerance = true) ∧
      ∀ r' ∈ mirrored, ∃ r ∈ found, atMost (magnitude (r + r')) tolerance = true := by
  obtain ⟨found, run, origin, covers⟩ := measured.search_covers degree
  obtain ⟨mirrored, run', origin', covers'⟩ :=
    measured.search_covers (degree.trans_eq (length_reflect c).symm)
  refine ⟨found, mirrored, run, run', fun r member => ?_, fun r' member => ?_⟩
  · obtain ⟨seed, inside, leads⟩ := origin r member
    obtain ⟨other, tried, opposite⟩ := seeds_reflected signs inside
    obtain ⟨z', leads', related⟩ := (leads_reflected signs opposite).1 r leads
    obtain ⟨r', member', near⟩ := covers' other tried z' leads'
    refine ⟨r', member', ?_⟩
    rwa [atMost_reflected signs (signs.opposite related), atMost_reflected signs (signs.swap r' r)]
      at near
  · obtain ⟨seed, inside, leads'⟩ := origin' r' member
    obtain ⟨other, tried, opposite⟩ := seeds_reflected signs inside
    obtain ⟨z, leads, related⟩ := (leads_reflected signs (signs.symm opposite)).2 r' leads'
    obtain ⟨r, member', near⟩ := covers other tried z leads
    refine ⟨r, member', ?_⟩
    rwa [atMost_reflected signs (signs.opposite (signs.symm related))] at near

/-- A quartic with roots at two of the seeds, in doubles and in exact numbers. -/
theorem search_reflected_quartic :
    (RuleOfSigns (fun s (x y : Float) => Same y (signed s x)) ∧
      Measured (fun x : Float => Binary64.isFinite x = true) ∧
      2 ≤ [1, 2, -7, 2, (-8 : Float)].length ∧
      ∃ found mirrored : List Float, search [1, 2, -7, 2, -8] = .ok (found.map .real) ∧
        search [1, -2, -7, -2, -8] = .ok (mirrored.map .real) ∧ found ≠ [] ∧
        (∀ r ∈ found, ∃ r' ∈ mirrored, (r + r').abs ≤ tolerance) ∧
        ∀ r' ∈ mirrored, ∃ r ∈ found, (r + r').abs ≤ tolerance) ∧
    RuleOfSigns (fun s (x y : ℝ) => y = signed s x) ∧ Measured (fun _ : ℝ => True) ∧
      2 ≤ [1, 2, -7, 2, (-8 : ℝ)].length ∧
      ∃ found mirrored : List ℝ, search [1, 2, -7, 2, -8] = .ok (found.map .real) ∧
        search [1, -2, -7, -2, -8] = .ok (mirrored.map .real) ∧ found ≠ [] ∧
        (∀ r ∈ found, ∃ r' ∈ mirrored, |r + r'| ≤ tolerance) ∧
        ∀ r' ∈ mirrored, ∃ r ∈ found, |r + r'| ≤ tolerance := by
  refine ⟨⟨signs_doubles, measured_doubles, by decide, ?_⟩, signs_reals, measured_reals, by simp, ?_⟩
  · obtain ⟨found, mirrored, run, run', near, near'⟩ :=
      search_reflected signs_doubles measured_doubles
        (show 2 ≤ [1, 2, -7, 2, (-8 : Float)].length by decide)
    have leads : Leads [1, 2, -7, 2, (-8 : Float)] 2 2 := approach_of_small (by decide +kernel) 99
    have inside : (2 : Float) ∈ seeds :=
      List.mem_append_right _ (List.mem_map_of_mem (show 2 ∈ [0, 2, 4, 6, 8, 10] by decide))
    simp only [Binary64.atMost_iff] at near near'
    exact ⟨found, mirrored, run, run',
      measured_doubles.found_ne_nil (by decide) run inside leads, near, near'⟩
  · obtain ⟨found, mirrored, run, run', near, near'⟩ :=
      search_reflected signs_reals measured_reals
        (show 2 ≤ [1, 2, -7, 2, (-8 : ℝ)].length by simp)
    have root : (RootFinder.Polynomial.formal [1, 2, -7, 2, (-8 : ℝ)]).eval 2 = 0 := by
      simp [RootFinder.Polynomial.formal]
      norm_num
    have leads : Leads [1, 2, -7, 2, (-8 : ℝ)] 2 2 := by
      rw [Leads, approach_exact, patience, landing, root, abs_zero, tolerance_eq]
      exact congrArg Except.ok (if_pos (by norm_num))
    have inside : (2 : ℝ) ∈ seeds := by
      simp [seeds]
    simp only [Reals.atMost_iff, Reals.magnitude_eq] at near near'
    exact ⟨found, mirrored, run, run',
      measured_reals.found_ne_nil (by simp) run inside leads, near, near'⟩

end Reflection

end RootFinder.Newton
