import Mathlib
import RootFinder.Result
import RootFinder.Strategy

/-! What a strategy lists, over any arithmetic: real roots, and from the closed forms of a quadratic
and a cubic perhaps two complex ones at the end, which are conjugates. -/
namespace RootFinder

/-- A list of results comes from a list of arguments, one by one. -/
theorem mapM_eq_ok {ε α β : Type} {f : α → Except ε β} {xs : List α} {ys : List β}
    (h : xs.mapM f = .ok ys) : List.Forall₂ (fun x y => f x = .ok y) xs ys := by
  induction xs generalizing ys with
  | nil =>
    cases h
    exact .nil
  | cons x xs ih =>
    rw [List.mapM_cons] at h
    obtain ⟨y, first, h⟩ := bind_eq_ok h
    obtain ⟨others, rest, h⟩ := bind_eq_ok h
    cases h
    exact .cons first (ih rest)

/-- Where two lists are paired, every member of the second has its partner in the first. -/
theorem exists_origin {α β : Type} {R : α → β → Prop} {origins : List α} {found : List β}
    (pairs : List.Forall₂ R origins found) {y : β} (member : y ∈ found) :
    ∃ x ∈ origins, R x y := by
  induction pairs with
  | nil => cases member
  | cons first _ ih =>
    rcases List.mem_cons.mp member with rfl | later
    · exact ⟨_, List.mem_cons_self, first⟩
    · obtain ⟨x, inside, related⟩ := ih later
      exact ⟨x, List.mem_cons_of_mem _ inside, related⟩

theorem mem_mapM {ε α β : Type} {f : α → Except ε β} {xs : List α} {ys : List β} {y : β}
    (h : xs.mapM f = .ok ys) (member : y ∈ ys) : ∃ x ∈ xs, f x = .ok y :=
  exists_origin (mapM_eq_ok h) member

/-- A list of results that are real roots. -/
theorem mapM_reals {ε α β : Type} {f : β → Except ε (Root α)} {xs : List β} {roots : List (Root α)}
    (h : xs.mapM f = .ok roots) (real : ∀ x ∈ xs, ∀ root, f x = .ok root → ∃ v, root = .real v) :
    ∃ values : List α, values.length = xs.length ∧ roots = values.map .real := by
  have pairs := mapM_eq_ok h
  clear h
  induction pairs with
  | nil => exact ⟨[], rfl, rfl⟩
  | cons first _ ih =>
    obtain ⟨v, rfl⟩ := real _ List.mem_cons_self _ first
    obtain ⟨values, length, rfl⟩ := ih fun x member => real x (List.mem_cons_of_mem _ member)
    exact ⟨v :: values, congrArg (· + 1) length, rfl⟩

open Scalar Approximate Elementary

variable {α : Type} [Add α] [Sub α] [Mul α] [Neg α] [Elementary α]
variable {coefficients : List α} {roots : List (Root α)}

namespace ClosedForm

omit [Add α] [Sub α] [Mul α] in
theorem linear_eq_ok (h : linear coefficients = .ok roots) :
    coefficients.length = 2 ∧ ∃ x, roots = [.real x] := by
  unfold linear at h
  split at h
  · obtain ⟨x, -, h⟩ := bind_eq_ok h
    cases h
    exact ⟨rfl, x, rfl⟩
  · cases h

theorem quadraticRoots_eq_ok {a b c : α} (h : quadraticRoots a b c = .ok roots) :
    (∃ x y, roots = [.real x, .real y]) ∨
      ∃ re im, roots = [.complex re im, .complex re (-im)] := by
  unfold quadraticRoots at h
  dsimp only at h
  split at h
  · obtain ⟨s, -, h⟩ := bind_eq_ok h
    obtain ⟨x, -, h⟩ := bind_eq_ok h
    obtain ⟨y, -, h⟩ := bind_eq_ok h
    cases h
    exact .inl ⟨x, y, rfl⟩
  · split at h
    · obtain ⟨x, -, h⟩ := bind_eq_ok h
      cases h
      exact .inl ⟨x, x, rfl⟩
    · obtain ⟨re, -, h⟩ := bind_eq_ok h
      obtain ⟨s, -, h⟩ := bind_eq_ok h
      obtain ⟨im, -, h⟩ := bind_eq_ok h
      cases h
      exact .inr ⟨re, im, rfl⟩

theorem quadratic_eq_ok (h : quadratic coefficients = .ok roots) : coefficients.length = 3 ∧
    ((∃ x y, roots = [.real x, .real y]) ∨
      ∃ re im, roots = [.complex re im, .complex re (-im)]) := by
  unfold quadratic at h
  split at h
  · exact ⟨rfl, quadraticRoots_eq_ok h⟩
  · cases h

omit [Add α] in
theorem repeatedRoots_eq_ok {t : Depressed α} (h : repeatedRoots t = .ok roots) :
    ∃ x y, roots = [.real x, .real y, .real y] := by
  obtain ⟨half, -, h⟩ := bind_eq_ok h
  cases h
  exact ⟨_, _, rfl⟩

theorem singleRoot_eq_ok {t : Depressed α} (h : singleRoot t = .ok roots) :
    ∃ x re im, roots = [.real x, .complex re im, .complex re (-im)] := by
  obtain ⟨s, -, h⟩ := bind_eq_ok h
  obtain ⟨half, -, h⟩ := bind_eq_ok h
  obtain ⟨mean, -, h⟩ := bind_eq_ok h
  obtain ⟨root3, -, h⟩ := bind_eq_ok h
  obtain ⟨im, -, h⟩ := bind_eq_ok h
  cases h
  exact ⟨_, _, im, rfl⟩

theorem tripleRoots_eq_ok {t : Depressed α} (h : tripleRoots t = .ok roots) :
    ∃ x y z, roots = [.real x, .real y, .real z] := by
  obtain ⟨p3, -, h⟩ := bind_eq_ok h
  obtain ⟨cube, -, h⟩ := bind_eq_ok h
  obtain ⟨s, -, h⟩ := bind_eq_ok h
  obtain ⟨ratio, -, h⟩ := bind_eq_ok h
  obtain ⟨angle, -, h⟩ := bind_eq_ok h
  obtain ⟨third, -, h⟩ := bind_eq_ok h
  obtain ⟨s, -, h⟩ := bind_eq_ok h
  have real (k : Nat) (_ : k ∈ [0, 1, 2]) (root : Root α)
      (found : (do
        let part ← quotient (angle + whole (2 * k) * pi) (whole 3)
        pure (.real (whole 2 * s * cosine part - t.shift))) = Except.ok root) :
      ∃ x, root = .real x := by
    obtain ⟨part, -, found⟩ := bind_eq_ok found
    cases found
    exact ⟨_, rfl⟩
  obtain ⟨values, three, rfl⟩ := mapM_reals h real
  obtain ⟨x, y, z, rfl⟩ := List.length_eq_three.mp three
  exact ⟨x, y, z, rfl⟩

/-- A cubic has three roots listed: three real ones, or one and a conjugate pair. -/
theorem cubicRoots_eq_ok {a b c d : α} (h : cubicRoots a b c d = .ok roots) :
    (∃ x y z, roots = [.real x, .real y, .real z]) ∨
      ∃ x re im, roots = [.real x, .complex re im, .complex re (-im)] := by
  unfold cubicRoots at h
  split at h
  · cases h
    exact .inl ⟨_, _, _, rfl⟩
  · split at h
    · obtain ⟨others, found, rfl⟩ := map_eq_ok h
      rcases quadraticRoots_eq_ok found with ⟨x, y, rfl⟩ | ⟨re, im, rfl⟩
      · exact .inl ⟨_, x, y, rfl⟩
      · exact .inr ⟨_, re, im, rfl⟩
    · obtain ⟨t, -, h⟩ := bind_eq_ok h
      split at h
      · obtain ⟨x, y, rfl⟩ := repeatedRoots_eq_ok h
        exact .inl ⟨x, y, y, rfl⟩
      · split at h
        · exact .inr (singleRoot_eq_ok h)
        · exact .inl (tripleRoots_eq_ok h)

theorem cubic_eq_ok (h : cubic coefficients = .ok roots) : coefficients.length = 4 ∧
    ((∃ x y z, roots = [.real x, .real y, .real z]) ∨
      ∃ x re im, roots = [.real x, .complex re im, .complex re (-im)]) := by
  unfold cubic at h
  split at h
  · exact ⟨rfl, cubicRoots_eq_ok h⟩
  · cases h

end ClosedForm

/-- Real roots, and after them perhaps two complex ones of one real part, the imaginary part of the
second `opposite` to that of the first. -/
inductive Paired (opposite : α → α → Prop) : List (Root α) → Prop
  | reals (values : List α) : Paired opposite (values.map .real)
  | conjugates (values : List α) {re im im' : α} (h : opposite im im') :
      Paired opposite (values.map .real ++ [.complex re im, .complex re im'])

omit [Add α] [Sub α] [Mul α] [Neg α] [Elementary α] in
/-- A pair is listed with the conjugate of each of its roots. -/
theorem Paired.closed {opposite : α → α → Prop} (symm : ∀ x y, opposite x y → opposite y x)
    (h : Paired opposite roots) {re im : α} (member : .complex re im ∈ roots) :
    ∃ im', .complex re im' ∈ roots ∧ opposite im im' := by
  cases h with
  | reals values =>
    obtain ⟨value, -, other⟩ := List.mem_map.mp member
    cases other
  | @conjugates values re' first second h =>
    have inside (z) (z_mem : z ∈ [Root.complex re' first, .complex re' second]) :
        z ∈ values.map .real ++ [Root.complex re' first, .complex re' second] :=
      List.mem_append_right _ z_mem
    rcases List.mem_append.mp member with real | pair
    · obtain ⟨value, -, other⟩ := List.mem_map.mp real
      cases other
    · rcases List.mem_pair.mp pair with same | same
      · cases same
        exact ⟨second, inside _ (by simp), h⟩
      · cases same
        exact ⟨first, inside _ (by simp), symm _ _ h⟩

/-- A strategy lists real roots, or real roots and a pair of conjugates; a pair comes only from the
closed form of a quadratic or of a cubic. -/
theorem Strategy.run_paired {strategy : Strategy} (h : strategy.run coefficients = .ok roots) :
    Paired (fun im im' => im' = -im) roots ∧
      (strategy = .quadratic ∨ strategy = .cubic ∨ ∃ values : List α, roots = values.map .real) := by
  cases strategy with
  | linear =>
    obtain ⟨-, x, rfl⟩ := ClosedForm.linear_eq_ok h
    exact ⟨.reals [x], .inr (.inr ⟨[x], rfl⟩)⟩
  | quadratic =>
    refine ⟨?_, .inl rfl⟩
    rcases (ClosedForm.quadratic_eq_ok h).2 with ⟨x, y, rfl⟩ | ⟨re, im, rfl⟩
    · exact .reals [x, y]
    · exact .conjugates [] rfl
  | cubic =>
    refine ⟨?_, .inr (.inl rfl)⟩
    rcases (ClosedForm.cubic_eq_ok h).2 with ⟨x, y, z, rfl⟩ | ⟨x, re, im, rfl⟩
    · exact .reals [x, y, z]
    · exact .conjugates [x] rfl
  | newton =>
    obtain ⟨found, -, rfl⟩ := map_eq_ok h
    exact ⟨.reals found, .inr (.inr ⟨found, rfl⟩)⟩

end RootFinder
