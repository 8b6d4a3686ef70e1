import Mathlib
import RootFinder.Proofs.Expression.Parsing
import RootFinder.Proofs.Polynomial.Writing

/-! Writing a vector and parsing the text. The leading zeros are lost and a zero may change its
sign; nothing else changes, as long as every coefficient is finite and no power too high. -/
namespace RootFinder.Polynomial

open Binary64 (isFinite isZero)
open Expression (Accepted Refused Term coefficientAt degree maxDegree normalize parse vector)

/-- A vector without its leading zeros; of one that is all zero, a single zero is left. -/
def core (coefficients : List Float) : List Float :=
  if coefficients ≠ [] ∧ coefficients.all isZero = true then [0]
  else coefficients.dropWhile isZero

/-- The same number: the two zeros are not told apart. -/
def Same (a b : Float) : Prop := a = b ∨ (isZero a = true ∧ isZero b = true)

theorem Same.isZero_eq {a b : Float} (h : Same a b) : isZero a = isZero b := by
  rcases h with rfl | ⟨left, right⟩
  · rfl
  · rw [left, right]

theorem Same.symm {a b : Float} (h : Same a b) : Same b a :=
  h.imp Eq.symm And.symm

theorem Same.trans {a b c : Float} (first : Same a b) (second : Same b c) : Same a c := by
  rcases first with rfl | ⟨left, middle⟩
  · exact second
  · exact .inr ⟨left, second.isZero_eq ▸ middle⟩

section Text

theorem write_dropWhile (first : Bool) (coefficients : List Float) :
    write first (coefficients.dropWhile isZero) = write first coefficients := by
  induction coefficients with
  | nil => rfl
  | cons c rest ih =>
    by_cases zero : isZero c = true
    · rw [List.dropWhile_cons_of_pos zero, ih, write, if_pos zero]
    · rw [List.dropWhile_cons_of_neg zero]

theorem text_of_kept {coefficients : List Float} (kept : coefficients.all isZero = false) :
    text coefficients = write true coefficients := by
  have begun : coefficients ≠ [] := by
    rintro rfl
    cases kept
  rw [text, List.isEmpty_eq_false_iff.mpr begun, kept]
  rfl

theorem text_core {coefficients : List Float} (begun : coefficients ≠ []) :
    text (core coefficients) = text coefficients := by
  unfold core
  by_cases zero : coefficients.all isZero = true
  · have single : text [0] = ['0'] := by decide +kernel
    rw [if_pos ⟨begun, zero⟩, single, text, zero, List.isEmpty_eq_false_iff.mpr begun]
    rfl
  · have kept : coefficients.dropWhile isZero ≠ [] := by
      intro none
      apply zero
      exact List.all_eq_true.mpr (List.dropWhile_eq_nil_iff.mp none)
    have head := List.head_dropWhile_not isZero kept
    have notAll : (coefficients.dropWhile isZero).all isZero = false := by
      apply Bool.eq_false_iff.mpr
      intro all
      have first := List.all_eq_true.mp all _ (List.head_mem kept)
      rw [head] at first
      cases first
    rw [if_neg fun both => zero both.2, text_of_kept notAll,
      text_of_kept (Bool.eq_false_iff.mpr zero), write_dropWhile]

theorem write_same {a b : List Float} (first : Bool) (same : List.Forall₂ Same a b) :
    write first a = write first b := by
  induction same generalizing first with
  | nil => rfl
  | @cons c d a b head tail ih =>
    rw [write, write, head.isZero_eq]
    by_cases zero : isZero d = true
    · rw [if_pos zero, if_pos zero, ih]
    · rcases head with rfl | ⟨-, other⟩
      · rw [if_neg zero, if_neg zero, ih, tail.length_eq]
      · exact absurd other zero

theorem text_same {a b : List Float} (same : List.Forall₂ Same a b) : text a = text b := by
  have zeros : a.all isZero = b.all isZero := by
    induction same with
    | nil => rfl
    | cons head tail ih => rw [List.all_cons, List.all_cons, head.isZero_eq, ih]
  have empty : a.isEmpty = b.isEmpty := by
    cases same <;> rfl
  rw [text, text, zeros, empty, write_same true same]

end Text

section Terms

theorem nonzero_dropWhile (coefficients : List Float) :
    nonzero (coefficients.dropWhile isZero) = nonzero coefficients := by
  induction coefficients with
  | nil => rfl
  | cons c rest ih =>
    by_cases zero : isZero c = true
    · rw [List.dropWhile_cons_of_pos zero, ih, nonzero, if_pos zero]
    · rw [List.dropWhile_cons_of_neg zero]

/-- A term that is written has an exponent within the vector and a coefficient from it. -/
theorem of_mem_nonzero {coefficients : List Float} {t : Term}
    (member : t ∈ nonzero coefficients) :
    t.exponent < coefficients.length ∧ t.coefficient ∈ coefficients := by
  induction coefficients with
  | nil => cases member
  | cons c rest ih =>
    have later (member : t ∈ nonzero rest) :
        t.exponent < (c :: rest).length ∧ t.coefficient ∈ c :: rest :=
      ⟨Nat.lt_succ_of_lt (ih member).1, List.mem_cons_of_mem _ (ih member).2⟩
    unfold nonzero at member
    split at member
    · exact later member
    · rcases List.mem_cons.mp member with rfl | member
      · exact ⟨Nat.lt_succ_self _, List.mem_cons_self⟩
      · exact later member

theorem degree_nonzero {c : Float} (rest : List Float) (other : isZero c = false) :
    degree (nonzero (c :: rest)) = rest.length := by
  have first : ⟨rest.length, c, rest.length != 0⟩ ∈ nonzero (c :: rest) := by
    rw [nonzero, other]
    exact List.mem_cons_self
  apply Nat.le_antisymm
  · rcases Expression.degree_attained (nonzero (c :: rest)) with none | ⟨t, member, -, same⟩
    · omega
    · rw [← same]
      exact Nat.le_of_lt_succ (of_mem_nonzero member).1
  · rcases Nat.eq_zero_or_pos rest.length with constant | positive
    · omega
    · exact Expression.le_degree first (bne_iff_ne.mpr positive.ne')

/-- Every entry comes back from the terms written for it, a zero as the positive one. -/
theorem entries_nonzero (coefficients : List Float) :
    List.Forall₂ Same
      ((List.range coefficients.length).reverse.map (coefficientAt (nonzero coefficients)))
      coefficients := by
  induction coefficients with
  | nil => exact .nil
  | cons c rest ih =>
    have absent : ∀ t ∈ nonzero rest, t.exponent ≠ rest.length := fun t member =>
      (of_mem_nonzero member).1.ne
    rw [List.length_cons, List.range_succ, List.reverse_append, List.reverse_singleton,
      List.singleton_append, List.map_cons]
    by_cases zero : isZero c = true
    · rw [nonzero, if_pos zero]
      refine .cons (.inr ⟨?_, zero⟩) ih
      rw [Expression.coefficientAt_of_absent absent]
      decide +kernel
    · rw [nonzero, if_neg zero]
      refine .cons (.inl (Expression.coefficientAt_cons_self (t := ⟨rest.length, c, _⟩) absent)) ?_
      have others : (List.range rest.length).reverse.map
          (coefficientAt (⟨rest.length, c, rest.length != 0⟩ :: nonzero rest)) =
            (List.range rest.length).reverse.map (coefficientAt (nonzero rest)) := by
        apply List.map_congr_left
        intro power member
        have below : power < rest.length := List.mem_range.mp (List.mem_reverse.mp member)
        exact Expression.coefficientAt_cons_of_ne below.ne'
      rw [others]
      exact ih

end Terms

theorem core_of_kept {coefficients : List Float} (kept : coefficients.all isZero = false) :
    core coefficients = coefficients.dropWhile isZero := by
  rw [core, if_neg fun both => Bool.eq_false_iff.mp kept both.2]

/-- The vector of the terms written for a vector that is not all zero. -/
theorem vector_nonzero {coefficients : List Float} (kept : coefficients.all isZero = false) :
    (core coefficients).length = degree (nonzero coefficients) + 1 ∧
      List.Forall₂ Same (vector (nonzero coefficients)) (core coefficients) := by
  rw [core_of_kept kept, ← nonzero_dropWhile]
  cases same : coefficients.dropWhile isZero with
  | nil =>
    have all := List.all_eq_true.mpr (List.dropWhile_eq_nil_iff.mp same)
    rw [kept] at all
    cases all
  | cons c rest =>
    have other : isZero c = false := by
      have head := List.head?_dropWhile_not isZero coefficients
      rwa [same] at head
    have top := degree_nonzero rest other
    refine ⟨by rw [List.length_cons, top], ?_⟩
    rw [vector, top]
    exact entries_nonzero (c :: rest)

/-- The text of a vector with a coefficient that is not finite is refused. -/
theorem parse_text_infinite {coefficients : List Float} {x : Float} (member : x ∈ coefficients)
    (infinite : isFinite x = false) : Refused (parse (text coefficients)) := by
  have kept : coefficients.all isZero = false := by
    apply Bool.eq_false_iff.mpr
    intro all
    rw [Binary64.isFinite_of_isZero (List.all_eq_true.mp all x member)] at infinite
    cases infinite
  -- the letter stays when the text is normalized, and no sentence has it
  have ascii := ascii_write true coefficients
  obtain ⟨c, inText, notBlank, letter⟩ := letter_write true member infinite
  have present : 'n' ∈ normalize (write true coefficients) := by
    rw [Expression.normalize_ascii ascii, ← letter]
    exact List.mem_map_of_mem (Text.mem_removeBlanks.mpr ⟨inText, notBlank⟩)
  rw [text_of_kept kept]
  have plain := Expression.plainDigits_normalize ascii
  rcases Expression.parse_finds plain (List.ne_nil_of_mem present) with refused | ⟨s, same⟩
  · exact refused
  · rw [← same] at present
    exact absurd (s.grammatical 'n' present) (by decide)

/-- The sentence written for a finite vector is admissible when the core is not too long. -/
theorem admissible_written {coefficients : List Float} {s : Expression.Sentence}
    (finite : ∀ c ∈ coefficients, isFinite c = true) (kept : coefficients.all isZero = false)
    (terms : s.summands.map Expression.Summand.term = nonzero coefficients)
    (short : (core coefficients).length ≤ maxDegree + 1) : s.Admissible := by
  intro t member
  have written : t.term ∈ nonzero coefficients := by
    rw [← terms]
    exact List.mem_map_of_mem member
  refine ⟨?_, finite _ (of_mem_nonzero written).2⟩
  rw [← nonzero_dropWhile] at written
  have below := (of_mem_nonzero written).1
  rw [← core_of_kept kept] at below
  exact Nat.le_of_lt_succ (Nat.lt_of_lt_of_le below short)

/-- The text of a finite vector is parsed as its core when that is not too long. -/
theorem parse_text_finite {coefficients : List Float} (begun : coefficients ≠ [])
    (finite : ∀ c ∈ coefficients, isFinite c = true) :
    ((core coefficients).length ≤ maxDegree + 1 ∧ ∃ v, parse (text coefficients) = .ok v ∧
        List.Forall₂ Same v (core coefficients)) ∨
      (maxDegree + 1 < (core coefficients).length ∧ Refused (parse (text coefficients))) := by
  by_cases zero : coefficients.all isZero = true
  · have parsed : parse ['0'] = .ok [0] := by decide +kernel
    rw [core, if_pos ⟨begun, zero⟩, text, List.isEmpty_eq_false_iff.mpr begun, zero]
    exact .inl ⟨by decide, [0], parsed, .cons (.inl rfl) .nil⟩
  · have kept := Bool.eq_false_iff.mpr zero
    obtain ⟨length, entries⟩ := vector_nonzero kept
    obtain ⟨s, written, terms⟩ := sentence_written finite kept
    rw [text_of_kept kept]
    rcases s.parse_gives (Expression.normalize_sentence written).symm with
      ⟨-, parsed⟩ | ⟨other, refused⟩
    · rw [terms] at parsed
      refine .inl ⟨?_, _, parsed, entries⟩
      rw [length, ← Expression.length_vector]
      exact (Expression.parse_accepted parsed).length
    · refine .inr ⟨?_, refused⟩
      by_contra short
      exact other (admissible_written finite kept terms (Nat.not_lt.mp short))

theorem length_core (coefficients : List Float) :
    (core coefficients).length ≤ max 1 coefficients.length := by
  unfold core
  split
  · exact le_max_left _ _
  · exact le_trans (List.dropWhile_sublist isZero).length_le (le_max_right _ _)

/-- The text of a vector that could have been parsed is parsed as its core. -/
theorem parse_text_accepted {v : List Float} (accepted : Accepted v) :
    ∃ w, parse (text v) = .ok w ∧ List.Forall₂ Same w (core v) := by
  rcases parse_text_finite accepted.begun accepted.finite with ⟨-, w, parsed, same⟩ | ⟨long, -⟩
  · exact ⟨w, parsed, same⟩
  · have bound := length_core v
    have short := accepted.length
    simp only [maxDegree] at long short
    omega

/-- The text of a vector that could have been parsed comes back as itself. -/
theorem text_fixed {v : List Float} (accepted : Accepted v) :
    ∃ w, parse (text v) = .ok w ∧ text w = text v := by
  obtain ⟨w, parsed, same⟩ := parse_text_accepted accepted
  exact ⟨w, parsed, (text_same same).trans (text_core accepted.begun)⟩

inductive Reread (coefficients : List Float) : Except Expression.Error (List Float) → Prop
  | back {v : List Float} (begun : coefficients ≠ [])
      (finite : ∀ c ∈ coefficients, isFinite c = true) (short : (core coefficients).length ≤ 101)
      (same : List.Forall₂ Same v (core coefficients)) : Reread coefficients (.ok v)
  | empty (none : coefficients = []) : Reread coefficients (.error .empty)
  | refused {flaw : Expression.Flaw} {position : Nat} (begun : coefficients ≠ [])
      (long : (∀ c ∈ coefficients, isFinite c = true) → 101 < (core coefficients).length) :
      Reread coefficients (.error (.invalid flaw position))

theorem reread_text (coefficients : List Float) :
    Reread coefficients (parse (text coefficients)) := by
  rcases eq_or_ne coefficients [] with rfl | begun
  · exact .empty rfl
  · by_cases finite : ∀ c ∈ coefficients, isFinite c = true
    · rcases parse_text_finite begun finite with
        ⟨short, v, parsed, same⟩ | ⟨long, flaw, position, refused⟩
      · rw [parsed]
        exact .back begun finite short same
      · rw [refused]
        exact .refused begun fun _ => long
    · obtain ⟨x, member, infinite⟩ : ∃ x ∈ coefficients, isFinite x = false := by
        simpa using finite
      obtain ⟨flaw, position, refused⟩ := parse_text_infinite member infinite
      rw [refused]
      exact .refused begun fun all => absurd all finite

/-- Only the empty vector has the empty text. -/
theorem text_ne_nil {coefficients : List Float} (begun : coefficients ≠ []) :
    text coefficients ≠ [] := by
  intro none
  have outcome := reread_text coefficients
  have empty : parse (text coefficients) = .error .empty := by
    rw [none]
    exact Expression.parse_empty rfl
  rw [empty] at outcome
  cases outcome with
  | empty none => exact begun none

/-- The text of a vector is parsed exactly when the vector is not empty, every coefficient is finite
and at most 101 are left without the leading zeros; these come back. The text of no vector is empty,
any other has a flaw. The text of whatever has been parsed comes back as itself. -/
theorem parse_format (coefficients : List Float) :
    ((∃ v, parse (format coefficients).toList = .ok v) ↔ coefficients ≠ [] ∧
      (∀ c ∈ coefficients, isFinite c = true) ∧ (core coefficients).length ≤ 101) ∧
    (∀ v, parse (format coefficients).toList = .ok v → List.Forall₂ Same v (core coefficients)) ∧
    (∀ e, parse (format coefficients).toList = .error e →
      (coefficients = [] ∧ e = .empty) ∨
        (coefficients ≠ [] ∧ ∃ flaw position, e = .invalid flaw position)) ∧
    (∀ cs v, parse cs = .ok v →
      ∃ w, parse (format v).toList = .ok w ∧ format w = format v) := by
  have outcome := reread_text coefficients
  simp only [format, String.toList_ofList]
  refine ⟨?_, ?_, ?_, ?_⟩
  · constructor
    · rintro ⟨v, parsed⟩
      rw [parsed] at outcome
      cases outcome with
      | back begun finite short same => exact ⟨begun, finite, short⟩
    · rintro ⟨begun, finite, short⟩
      generalize parse (text coefficients) = result at outcome
      cases outcome with
      | back => exact ⟨_, rfl⟩
      | empty none => exact absurd none begun
      | refused begun long => exact absurd (long finite) (Nat.not_lt.mpr short)
  · intro v parsed
    rw [parsed] at outcome
    cases outcome with
    | back begun finite short same => exact same
  · intro e failed
    rw [failed] at outcome
    cases outcome with
    | empty none => exact .inl ⟨none, rfl⟩
    | refused begun long => exact .inr ⟨begun, _, _, rfl⟩
  · intro cs v parsed
    obtain ⟨w, again, same⟩ := text_fixed (Expression.parse_accepted parsed)
    exact ⟨w, again, congrArg String.ofList same⟩

end RootFinder.Polynomial
