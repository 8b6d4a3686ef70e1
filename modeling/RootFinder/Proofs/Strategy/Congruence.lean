import Mathlib
import RootFinder.Solution

/-! Relations that an arithmetic respects: related numbers compare alike and are calculated with
alike. Related coefficients then take the same branches of every strategy, which fails alike or
finds related roots. -/
namespace RootFinder

open Scalar Approximate Elementary

/-- Both failed alike, or both came about and are related. -/
inductive Agree {ε α β : Type} (R : α → β → Prop) : Except ε α → Except ε β → Prop
  | ok {a : α} {b : β} (related : R a b) : Agree R (.ok a) (.ok b)
  | error (e : ε) : Agree R (.error e) (.error e)

namespace Agree

variable {ε α β γ δ : Type} {R : α → β → Prop} {S : γ → δ → Prop}

theorem bind {x : Except ε α} {y : Except ε β} {f : α → Except ε γ} {g : β → Except ε δ}
    (first : Agree R x y) (next : ∀ a b, R a b → Agree S (f a) (g b)) :
    Agree S (x >>= f) (y >>= g) := by
  cases first with
  | ok related => exact next _ _ related
  | error e => exact .error e

theorem map {x : Except ε α} {y : Except ε β} {f : α → γ} {g : β → δ} (first : Agree R x y)
    (next : ∀ a b, R a b → S (f a) (g b)) : Agree S (x.map f) (y.map g) := by
  cases first with
  | ok related => exact .ok (next _ _ related)
  | error e => exact .error e

theorem imp {S : α → β → Prop} {x : Except ε α} {y : Except ε β} (first : Agree R x y)
    (weaker : ∀ a b, R a b → S a b) : Agree S x y := by
  cases first with
  | ok related => exact .ok (weaker _ _ related)
  | error e => exact .error e

/-- Equal results agree. -/
theorem of_eq {x y : Except ε α} (same : x = y) : Agree Eq x y := by
  subst y
  cases x with
  | ok a => exact .ok rfl
  | error e => exact .error e

/-- Agreeing with what a function makes of a result. -/
theorem of_map {f : α → β} {x : Except ε α} {y : Except ε γ} {S : γ → β → Prop}
    (h : Agree S y (x.map f)) : Agree (fun a c => S c (f a)) x y := by
  cases x with
  | error e =>
    cases h
    exact .error e
  | ok a =>
    cases h with
    | ok related => exact .ok related

theorem mapM {f : α → Except ε γ} {g : β → Except ε δ} {xs : List α} {ys : List β}
    (lists : List.Forall₂ R xs ys) (next : ∀ a b, R a b → Agree S (f a) (g b)) :
    Agree (List.Forall₂ S) (xs.mapM f) (ys.mapM g) := by
  induction lists with
  | nil => exact .ok .nil
  | cons first _ ih =>
    rw [List.mapM_cons, List.mapM_cons]
    refine (next _ _ first).bind fun a b head => ?_
    refine ih.bind fun as bs tail => ?_
    exact .ok (.cons head tail)

end Agree

inductive Root.Related {α : Type} (R : α → α → Prop) : Root α → Root α → Prop
  | real {a b : α} (value : R a b) : Root.Related R (.real a) (.real b)
  | complex {a b c d : α} (re : R a b) (im : R c d) : Root.Related R (.complex a c) (.complex b d)

namespace Newton

variable {α : Type} [Add α] [Sub α] [Mul α] [Approximate α]

/-- Values and slopes at two points from which the search goes on alike: with related points, or not
at all. -/
structure Alike (S : α → α → Prop) (x x' : α) (p p' : α × α) : Prop where
  near : less (magnitude p.1) tolerance = less (magnitude p'.1) tolerance
  flat : isZero p.2 = isZero p'.2
  next : Agree (fun s s' => S (x - s) (x' - s') ∧
      less (magnitude (x - s - x)) tolerance = less (magnitude (x' - s' - x')) tolerance)
    (quotient p.1 p.2) (quotient p'.1 p'.2)

/-- Searches that go on alike from related points end alike, at related points. -/
theorem approach_simulated {S : α → α → Prop} {cs cs' : List α}
    (step : ∀ x x', S x x' →
      Agree (Alike S x x') (Polynomial.evaluate cs x) (Polynomial.evaluate cs' x'))
    (fuel : Nat) {x x' : α} (related : S x x') :
    Agree (Option.Rel S) (approach cs fuel x) (approach cs' fuel x') := by
  induction fuel generalizing x x' with
  | zero => exact .ok .none
  | succ fuel ih =>
    have values := step x x' related
    unfold approach
    generalize Polynomial.evaluate cs x = p at values
    generalize Polynomial.evaluate cs' x' = p' at values
    cases values with
    | error fault =>
      cases fault with
      | powerTooLarge => exact .ok .none
      | _ => exact .error _
    | @ok a b alike =>
      obtain ⟨near, flat, steps⟩ := alike
      simp only
      rw [near, flat]
      split
      · exact .ok (.some related)
      · split
        · exact .ok .none
        · generalize quotient a.1 a.2 = s at steps
          generalize quotient b.1 b.2 = s' at steps
          cases steps with
          | error fault => exact .error fault
          | ok next =>
            obtain ⟨goesOn, short⟩ := next
            dsimp only
            rw [short]
            split
            · exact .ok .none
            · exact ih goesOn

end Newton

variable {α : Type} [Add α] [Sub α] [Mul α] [Neg α] [Elementary α]

/-- No operation tells related numbers apart, and the arc cosine is the same one. -/
structure Respects (R : α → α → Prop) : Prop where
  refl (a : α) : R a a
  add {a a' b b' : α} : R a a' → R b b' → R (a + b) (a' + b')
  sub {a a' b b' : α} : R a a' → R b b' → R (a - b) (a' - b')
  mul {a a' b b' : α} : R a a' → R b b' → R (a * b) (a' * b')
  neg {a a' : α} : R a a' → R (-a) (-a')
  power {a a' : α} (n : Nat) : R a a' → Agree R (power a n) (power a' n)
  less {a a' b b' : α} : R a a' → R b b' → less a b = less a' b'
  same {a a' b b' : α} : R a a' → R b b' → same a b = same a' b'
  magnitude {a a' : α} : R a a' → R (magnitude a) (magnitude a')
  quotient {a a' b b' : α} : R a a' → R b b' → Agree R (quotient a b) (quotient a' b')
  squareRoot {a a' : α} : R a a' → Agree R (squareRoot a) (squareRoot a')
  cubeRoot {a a' : α} : R a a' → R (cubeRoot a) (cubeRoot a')
  arcCosine {a a' : α} : R a a' → arcCosine a = arcCosine a'

namespace Respects

variable {R : α → α → Prop} (r : Respects R)
include r

theorem isZero {a a' : α} (h : R a a') : isZero a = isZero a' := r.same h (r.refl _)

section ClosedForm

open ClosedForm

variable {a a' b b' c c' d d' : α}

theorem linear {cs cs' : List α} (h : List.Forall₂ R cs cs') :
    Agree (List.Forall₂ (Root.Related R)) (linear cs) (linear cs') := by
  have length := h.length_eq
  match h with
  | .cons first (.cons second .nil) =>
    refine (r.quotient (r.neg second) first).bind fun x x' root => ?_
    exact .ok (.cons (.real root) .nil)
  | .nil => exact .error _
  | .cons _ .nil => exact .error _
  | .cons _ (.cons _ (.cons _ _)) =>
    simp only [ClosedForm.linear, length]
    exact .error _

theorem quadraticRoots (first : R a a') (second : R b b') (third : R c c') :
    Agree (List.Forall₂ (Root.Related R)) (quadraticRoots a b c) (quadraticRoots a' b' c') := by
  have discriminant : R (b * b - whole 4 * a * c) (b' * b' - whole 4 * a' * c') :=
    r.sub (r.mul second second) (r.mul (r.mul (r.refl _) first) third)
  have twice : R (whole 2 * a) (whole 2 * a') := r.mul (r.refl _) first
  unfold ClosedForm.quadraticRoots
  dsimp only
  rw [r.less (r.refl (whole 0)) discriminant, r.isZero discriminant]
  split
  · refine (r.squareRoot discriminant).bind fun s s' root => ?_
    refine (r.quotient (r.add (r.neg second) root) twice).bind fun x x' left => ?_
    refine (r.quotient (r.sub (r.neg second) root) twice).bind fun y y' right => ?_
    exact .ok (.cons (.real left) (.cons (.real right) .nil))
  · split
    · refine (r.quotient (r.neg second) twice).bind fun x x' root => ?_
      exact .ok (.cons (.real root) (.cons (.real root) .nil))
    · refine (r.quotient (r.neg second) twice).bind fun re re' real => ?_
      refine (r.squareRoot (r.neg discriminant)).bind fun s s' root => ?_
      refine (r.quotient root twice).bind fun im im' imaginary => ?_
      exact .ok (.cons (.complex real imaginary) (.cons (.complex real (r.neg imaginary)) .nil))

theorem quadratic {cs cs' : List α} (h : List.Forall₂ R cs cs') :
    Agree (List.Forall₂ (Root.Related R)) (quadratic cs) (quadratic cs') := by
  have length := h.length_eq
  match h with
  | .cons first (.cons second (.cons third .nil)) => exact r.quadraticRoots first second third
  | .nil => exact .error _
  | .cons _ .nil => exact .error _
  | .cons _ (.cons _ .nil) => exact .error _
  | .cons _ (.cons _ (.cons _ (.cons _ _))) =>
    simp only [ClosedForm.quadratic, length]
    exact .error _

structure Depressed (R : α → α → Prop) (t u : ClosedForm.Depressed α) : Prop where
  p : R t.p u.p
  q : R t.q u.q
  discriminant : R t.discriminant u.discriminant
  shift : R t.shift u.shift

theorem depress (first : R a a') (second : R b b') (third : R c c') (fourth : R d d') :
    Agree (Depressed R) (depress a b c d) (depress a' b' c' d') := by
  have fixed := fun n : Nat => r.refl (whole n)
  have factor : R (whole 3 * a) (whole 3 * a') := r.mul (fixed 3) first
  refine (r.quotient (r.sub (r.mul factor third) (r.mul second second))
    (r.mul factor first)).bind fun p p' hp => ?_
  refine (r.power 3 second).bind fun b3 b3' hb => ?_
  refine (r.power 3 first).bind fun a3 a3' ha => ?_
  have middle : R (whole 9 * a * b * c) (whole 9 * a' * b' * c') :=
    r.mul (r.mul (r.mul (fixed 9) first) second) third
  have last : R (whole 27 * a * a * d) (whole 27 * a' * a' * d') :=
    r.mul (r.mul (r.mul (fixed 27) first) first) fourth
  refine (r.quotient (r.add (r.sub (r.mul (fixed 2) hb) middle) last)
    (r.mul (fixed 27) ha)).bind fun q q' hq => ?_
  refine (r.quotient (r.mul hq hq) (fixed 4)).bind fun square square' hs => ?_
  refine (r.power 3 hp).bind fun p3 p3' h3 => ?_
  refine (r.quotient h3 (fixed 27)).bind fun cube cube' hc => ?_
  refine (r.quotient second factor).bind fun shift shift' hshift => ?_
  exact .ok ⟨hp, hq, r.add hs hc, hshift⟩

variable {t u : ClosedForm.Depressed α}

theorem repeatedRoots (h : Depressed R t u) :
    Agree (List.Forall₂ (Root.Related R)) (repeatedRoots t) (repeatedRoots u) := by
  refine (r.quotient (r.neg h.q) (r.refl (whole 2))).bind fun x x' half => ?_
  have root := r.cubeRoot half
  have single := r.sub (r.mul (r.refl (whole 2)) root) h.shift
  have double := r.sub (r.neg root) h.shift
  exact .ok (.cons (.real single) (.cons (.real double) (.cons (.real double) .nil)))

theorem singleRoot (h : Depressed R t u) :
    Agree (List.Forall₂ (Root.Related R)) (singleRoot t) (singleRoot u) := by
  refine (r.squareRoot h.discriminant).bind fun s s' root => ?_
  refine (r.quotient (r.neg h.q) (r.refl (whole 2))).bind fun x x' half => ?_
  have left := r.cubeRoot (r.add half root)
  have right := r.cubeRoot (r.sub half root)
  refine (r.quotient (r.neg (r.add left right)) (r.refl (whole 2))).bind fun m m' mean => ?_
  refine (r.squareRoot (r.refl (whole 3))).bind fun w w' root3 => ?_
  refine (r.quotient (r.mul (r.sub left right) root3) (r.refl (whole 2))).bind
    fun im im' imaginary => ?_
  have real := r.sub mean h.shift
  exact .ok (.cons (.real (r.sub (r.add left right) h.shift)) (.cons (.complex real imaginary)
    (.cons (.complex real (r.neg imaginary)) .nil)))

theorem tripleRoots (h : Depressed R t u) :
    Agree (List.Forall₂ (Root.Related R)) (tripleRoots t) (tripleRoots u) := by
  refine (r.power 3 h.p).bind fun p3 p3' h3 => ?_
  refine (r.quotient (r.neg h3) (r.refl (whole 27))).bind fun cube cube' hc => ?_
  refine (r.squareRoot hc).bind fun s s' root => ?_
  refine (r.quotient (r.neg h.q) (r.mul (r.refl (whole 2)) root)).bind fun x x' ratio => ?_
  -- from here on the two angles are one and the same
  refine (Agree.of_eq (r.arcCosine ratio)).bind fun angle angle' same => ?_
  subst angle'
  refine (r.quotient (r.neg h.p) (r.refl (whole 3))).bind fun y y' third => ?_
  refine (r.squareRoot third).bind fun s s' radius => ?_
  have turns : List.Forall₂ Eq [0, 1, 2] [0, 1, 2] := List.forall₂_refl _
  refine Agree.mapM turns fun k _ same => ?_
  subst same
  refine (Agree.of_eq rfl).bind fun part part' same => ?_
  subst part'
  exact .ok (.real (r.sub (r.mul (r.mul (r.refl (whole 2)) radius) (r.refl _)) h.shift))

theorem cardano (first : R a a') (second : R b b') (third : R c c') (fourth : R d d') :
    Agree (List.Forall₂ (Root.Related R)) (cardano a b c d) (cardano a' b' c' d') := by
  refine (r.depress first second third fourth).bind fun t u h => ?_
  rw [r.less (r.magnitude h.discriminant) (r.refl _), r.less (r.refl (whole 0)) h.discriminant]
  split
  · exact r.repeatedRoots h
  · split
    · exact r.singleRoot h
    · exact r.tripleRoots h

theorem cubicRoots (first : R a a') (second : R b b') (third : R c c') (fourth : R d d') :
    Agree (List.Forall₂ (Root.Related R)) (cubicRoots a b c d) (cubicRoots a' b' c' d') := by
  have fixed (x : α) : Root.Related R (.real x) (.real x) := .real (r.refl x)
  unfold ClosedForm.cubicRoots
  rw [r.same first (r.refl _), r.isZero second, r.same third (r.refl _), r.isZero fourth]
  split
  · exact .ok (.cons (fixed _) (.cons (fixed _) (.cons (fixed _) .nil)))
  · split
    · exact (r.quadraticRoots first second third).map fun _ _ others => .cons (fixed _) others
    · exact r.cardano first second third fourth

theorem cubic {cs cs' : List α} (h : List.Forall₂ R cs cs') :
    Agree (List.Forall₂ (Root.Related R)) (cubic cs) (cubic cs') := by
  have length := h.length_eq
  match h with
  | .cons first (.cons second (.cons third (.cons fourth .nil))) =>
    exact r.cubicRoots first second third fourth
  | .nil => exact .error _
  | .cons _ .nil => exact .error _
  | .cons _ (.cons _ .nil) => exact .error _
  | .cons _ (.cons _ (.cons _ .nil)) => exact .error _
  | .cons _ (.cons _ (.cons _ (.cons _ (.cons _ _)))) =>
    simp only [ClosedForm.cubic, length]
    exact .error _

end ClosedForm

section Newton

open Newton

variable {x x' : α} {cs cs' : List α}

def Pair (R : α → α → Prop) (p q : α × α) : Prop := R p.1 q.1 ∧ R p.2 q.2

theorem accumulate (point : R x x') (h : List.Forall₂ R cs cs') {value value' slope slope' : α}
    (values : R value value') (slopes : R slope slope') :
    Agree (Pair R) (Polynomial.accumulate x cs value slope)
      (Polynomial.accumulate x' cs' value' slope') := by
  induction h generalizing value value' slope slope' with
  | nil => exact .ok ⟨values, slopes⟩
  | @cons c c' cs cs' head tail ih =>
    cases tail with
    | nil =>
      refine (r.power 0 point).bind fun p p' one => ?_
      exact .ok ⟨r.add values (r.mul head one), slopes⟩
    | @cons d d' rest rest' next others =>
      rw [Polynomial.accumulate, Polynomial.accumulate, others.length_eq]
      refine (r.power _ point).bind fun p p' high => ?_
      refine (r.power _ point).bind fun q q' low => ?_
      have factor := r.mul (r.refl (whole (rest'.length + 1))) head
      exact ih (r.add values (r.mul head high)) (r.add slopes (r.mul factor low))

theorem evaluate (h : List.Forall₂ R cs cs') (point : R x x') :
    Agree (Pair R) (Polynomial.evaluate cs x) (Polynomial.evaluate cs' x') :=
  r.accumulate point h (r.refl _) (r.refl _)

theorem approach (h : List.Forall₂ R cs cs') (fuel : Nat) (point : R x x') :
    Agree (Option.Rel R) (approach cs fuel x) (approach cs' fuel x') := by
  refine approach_simulated (fun y y' near => ?_) fuel point
  refine (r.evaluate h near).imp fun p p' ⟨value, slope⟩ => ?_
  refine ⟨r.less (r.magnitude value) (r.refl _), r.isZero slope, ?_⟩
  refine (r.quotient value slope).imp fun s s' step => ?_
  have next := r.sub near step
  exact ⟨next, r.less (r.magnitude (r.sub next near)) (r.refl _)⟩

theorem isNew {roots roots' : List α} (h : List.Forall₂ R roots roots') (point : R x x') :
    isNew roots x = isNew roots' x' := by
  induction h with
  | nil => rfl
  | cons head _ ih =>
    simp only [Newton.isNew, List.all_cons] at ih ⊢
    rw [ih, r.less (r.refl _) (r.magnitude (r.sub head point))]

theorem collect (h : List.Forall₂ R cs cs') (seeds : List α) {roots roots' : List α}
    (known : List.Forall₂ R roots roots') :
    Agree (List.Forall₂ R) (collect cs seeds roots) (collect cs' seeds roots') := by
  induction seeds generalizing roots roots' with
  | nil => exact .ok known
  | cons seed rest ih =>
    have ends := r.approach h patience (r.refl seed)
    unfold Newton.collect
    generalize Newton.approach cs patience seed = e at ends
    generalize Newton.approach cs' patience seed = e' at ends
    cases ends with
    | error fault => exact .error fault
    | ok found =>
      cases found with
      | none => exact ih known
      | some point =>
        simp only [r.isNew known point]
        apply ih
        split
        · exact List.rel_append known (.cons point .nil)
        · exact known

theorem search (h : List.Forall₂ R cs cs') :
    Agree (List.Forall₂ (Root.Related R)) (search cs) (search cs') := by
  refine (r.collect h seeds .nil).map fun roots roots' found => ?_
  exact List.rel_map (fun _ _ => .real) found

end Newton

theorem run {cs cs' : List α} (h : List.Forall₂ R cs cs') (strategy : Strategy) :
    Agree (List.Forall₂ (Root.Related R)) (strategy.run cs) (strategy.run cs') := by
  cases strategy with
  | linear => exact r.linear h
  | quadratic => exact r.quadratic h
  | cubic => exact r.cubic h
  | newton => exact r.search h

/-- Related coefficients have one strategy, and it finds related roots or fails alike. -/
theorem findRoots {cs cs' : List α} (h : List.Forall₂ R cs cs') :
    Agree (fun p q => p.1 = q.1 ∧ List.Forall₂ (Root.Related R) p.2 q.2)
      (findRoots cs) (findRoots cs') := by
  unfold RootFinder.findRoots
  rw [h.length_eq]
  split
  · exact .error _
  · rename_i strategy _
    have found := r.run h strategy
    generalize strategy.run cs = e at found
    generalize strategy.run cs' = e' at found
    cases found with
    | error fault => exact .error _
    | ok roots => exact .ok ⟨rfl, roots⟩

end Respects

end RootFinder
