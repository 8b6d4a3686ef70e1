import Mathlib
import RootFinder.Proofs.Expression.Values
import RootFinder.Proofs.Expression.Viability

/-! What can be wrong with a text, and after which of its lexemes. Lexemes are read off the front of
a text with the remaining characters present, so that no numeral is cut short. -/
namespace RootFinder.Expression

open Text (isDigit decimalValue?)

/-- The lexeme a text begins with, and what follows it. -/
def first? : List Char → Option (Lexeme × List Char)
  | [] => none
  | c :: rest =>
    if c = '+' ∨ c = '-' then some (.sign (c = '-'), rest)
    else if isDigit c then
      some (.numeral (Numeral.split (c :: rest)).1, (Numeral.split (c :: rest)).2)
    else if c = 'x' then some (.unknown, rest)
    else if c = '^' then some (.caret, rest)
    else none

/-- A text begins with these lexemes and goes on with the remaining characters. -/
inductive Begins : List Char → List Lexeme → List Char → Prop
  | nil (cs : List Char) : Begins cs [] cs
  | cons {cs mid rest : List Char} {l : Lexeme} {ls : List Lexeme}
      (first : first? cs = some (l, mid)) (more : Begins mid ls rest) : Begins cs (l :: ls) rest

def width (ls : List Lexeme) : Nat := (ls.flatMap Lexeme.text).length

/-- What may come after these lexemes, for a message. -/
def wanted (before : List Lexeme) : Wanted :=
  match before.getLast? with
  | none | some (.sign _) => .term
  | some .caret => .exponent
  | some (.numeral _) | some .unknown => .sign

/-- An exponent is too high if it has more digits than the highest one, not counting zeros in front,
or else a higher value. -/
def TooHigh (digits : List Char) : Prop :=
  (Decimal.decimalDigits maxDegree).length < (digits.dropWhile (· = '0')).length ∨
    ∃ values, digits.mapM decimalValue? = some values ∧ maxDegree < Numeral.ofDigits values

def TooLarge (n : Numeral) : Prop :=
  ∃ d, n.value? = some d ∧ Binary64.infinity ≤ Binary64.ofDecimal d

/-- What is wrong with a text after the lexemes `before`: the next character starts none, the next
lexeme does not continue a sentence, or is an exponent or a coefficient out of range, or the text
ends though the sentence does not. -/
inductive Fault (cs : List Char) (before : List Lexeme) : Flaw → Prop
  | stray {c : Char} {rest : List Char} (read : Begins cs before (c :: rest))
      (none : first? (c :: rest) = none) : Fault cs before (.unexpected c)
  | misplaced {l : Lexeme} {rest : List Char} (read : Begins cs (before ++ [l]) rest)
      (viable : Viable before) (stuck : ¬ Viable (before ++ [l])) :
      Fault cs before (.expected (wanted before) (some l.text))
  | exponent {n : Numeral} {rest : List Char} (read : Begins cs (before ++ [.numeral n]) rest)
      (viable : Viable (before ++ [.numeral n])) (after : before.getLast? = some .caret)
      (high : TooHigh n.whole) : Fault cs before .exponentTooLarge
  | coefficient {n : Numeral} {rest : List Char} (read : Begins cs (before ++ [.numeral n]) rest)
      (viable : Viable (before ++ [.numeral n])) (apart : before.getLast? ≠ some .caret)
      (large : TooLarge n) : Fault cs before .coefficientTooLarge
  | ends (read : Begins cs before []) (viable : Viable before) (unfinished : ¬ IsSentence before) :
      Fault cs before (.expected (wanted before) none)

def FirstFault (cs : List Char) (position : Nat) : Prop :=
  (∃ before flaw, position = width before ∧ Fault cs before flaw) ∧
    ∀ before flaw, Fault cs before flaw → position ≤ width before

theorem width_append (ls ks : List Lexeme) : width (ls ++ ks) = width ls + width ks := by
  simp [width]

theorem width_cons (l : Lexeme) (ls : List Lexeme) :
    width (l :: ls) = l.text.length + width ls := by
  simp [width]

theorem width_singleton (l : Lexeme) : width [l] = l.text.length := by
  simp [width]

theorem text_first {cs rest : List Char} {l : Lexeme} (h : first? cs = some (l, rest)) :
    l.text ++ rest = cs := by
  unfold first? at h
  split at h
  · cases h
  · rename_i c tail
    split_ifs at h with sign digit unknown caret
    · cases h
      rcases sign with rfl | rfl <;> rfl
    · cases h
      exact Numeral.text_split (c :: tail)
    · cases h
      rw [unknown]
      rfl
    · cases h
      rw [caret]
      rfl

theorem first_shorter {cs rest : List Char} {l : Lexeme} (h : first? cs = some (l, rest)) :
    rest.length < cs.length := by
  unfold first? at h
  split at h
  · cases h
  · split_ifs at h with sign digit unknown caret
    · cases h
      simp
    · cases h
      exact Numeral.split_shorter digit
    · cases h
      simp
    · cases h
      simp

namespace Begins

variable {cs mid rest : List Char} {l : Lexeme} {ls ks before : List Lexeme}

theorem text (h : Begins cs ls rest) : ls.flatMap Lexeme.text ++ rest = cs := by
  induction h with
  | nil => rfl
  | cons first more ih => rw [List.flatMap_cons, List.append_assoc, ih, text_first first]

theorem of_append (h : Begins cs (ls ++ ks) rest) :
    ∃ mid, Begins cs ls mid ∧ Begins mid ks rest := by
  induction ls generalizing cs with
  | nil => exact ⟨cs, .nil cs, h⟩
  | cons l ls ih =>
    cases h with
    | cons first more =>
      obtain ⟨mid, front, back⟩ := ih more
      exact ⟨mid, .cons first front, back⟩

/-- Lexemes take characters. -/
theorem width_pos (h : Begins cs ls rest) (some : ls ≠ []) :
    0 < width ls := by
  cases h with
  | nil => exact absurd rfl some
  | cons first more =>
    have shorter := first_shorter first
    rw [← text_first first, List.length_append] at shorter
    rw [width_cons]
    omega

/-- Whatever a text begins with, it goes on to the place where no lexeme comes next. -/
theorem prefix_of_stop (whole : Begins cs ls rest) (stop : first? rest = none)
    (part : Begins cs before mid) : ∃ more, ls = before ++ more ∧ Begins mid more rest := by
  induction part generalizing ls with
  | nil => exact ⟨ls, rfl, whole⟩
  | cons first more ih =>
    cases whole with
    | nil =>
      rw [stop] at first
      cases first
    | cons first' more' =>
      rw [first] at first'
      cases first'
      obtain ⟨others, rfl, back⟩ := ih more'
      exact ⟨others, rfl, back⟩

end Begins

section Scanning

variable {cs rest : List Char} {l : Lexeme} {position finish : Nat}

/-- Tokens stand one after the other from `start` to `finish`. -/
def Placed (finish : Nat) : Nat → List Token → Prop
  | start, [] => start = finish
  | start, t :: ts => t.position = start ∧ Placed finish (start + t.lexeme.text.length) ts

/-- What scanning comes to: all tokens of the text, or the first character that starts none. -/
inductive Tokenized (position : Nat) (cs : List Char) : Except Error (List Token) → Prop
  | all {ts : List Token} (read : Begins cs (ts.map Token.lexeme) [])
      (placed : Placed (position + cs.length) position ts) : Tokenized position cs (.ok ts)
  | stray {before : List Lexeme} {c : Char} {rest : List Char}
      (read : Begins cs before (c :: rest)) (none : first? (c :: rest) = none) :
      Tokenized position cs (.error (.invalid (.unexpected c) (position + width before)))

theorem Tokenized.cons {result : Except Error (List Token)} (first : first? cs = some (l, rest))
    (h : Tokenized (position + l.text.length) rest result) :
    Tokenized position cs (result.map (⟨l, position⟩ :: ·)) := by
  cases h with
  | all read placed =>
    refine .all (.cons first read) ⟨rfl, ?_⟩
    have same := congrArg List.length (text_first first)
    rw [List.length_append] at same
    rwa [Nat.add_assoc, same] at placed
  | stray read none =>
    rename_i before c tail
    have moved : Tokenized position cs
        (.error (.invalid (.unexpected c) (position + width (l :: before)))) :=
      .stray (.cons first read) none
    rwa [width_cons, ← Nat.add_assoc] at moved

theorem scan_tokenized (position : Nat) (cs : List Char) :
    Tokenized position cs (scan position cs) := by
  fun_induction scan position cs with
  | case1 position => exact .all (.nil []) rfl
  | case2 position c rest sign ih =>
    have same : (Lexeme.sign (c = '-')).text = [c] := by rcases sign with rfl | rfl <;> rfl
    refine Tokenized.cons (if_pos sign) ?_
    rw [same]
    exact ih
  | case3 position c rest other digit ih =>
    refine Tokenized.cons ?_ ih
    rw [first?, if_neg other, if_pos digit]
  | case4 position rest other notDigit ih =>
    refine Tokenized.cons ?_ ih
    rw [first?, if_neg other, if_neg notDigit, if_pos rfl]
  | case5 position rest other notDigit notUnknown ih =>
    refine Tokenized.cons ?_ ih
    rw [first?, if_neg other, if_neg notDigit, if_neg notUnknown, if_pos rfl]
  | case6 position c rest other notDigit notUnknown notCaret =>
    refine Tokenized.stray (.nil _) ?_
    rw [first?, if_neg other, if_neg notDigit, if_neg notUnknown, if_neg notCaret]

end Scanning

section Values

/-- Zeros in front do not add to the value. -/
theorem mapM_dropZeros {digits : List Char} {values : List Nat}
    (read : (digits.dropWhile (· = '0')).mapM decimalValue? = some values) :
    ∃ all, digits.mapM decimalValue? = some all ∧
      Numeral.ofDigits all = Numeral.ofDigits values := by
  induction digits with
  | nil => exact ⟨values, read, rfl⟩
  | cons c digits ih =>
    by_cases zero : c = '0'
    · subst c
      rw [List.dropWhile_cons_of_pos (by decide)] at read
      obtain ⟨all, more, same⟩ := ih read
      have first : decimalValue? '0' = some 0 := by decide +kernel
      refine ⟨0 :: all, ?_, same⟩
      rw [List.mapM_cons, first, more]
      rfl
    · rw [List.dropWhile_cons_of_neg (by simpa using zero)] at read
      exact ⟨values, read, rfl⟩

theorem mapM_decimalValue?_cons {c : Char} {cs : List Char} {values : List Nat}
    (read : (c :: cs).mapM decimalValue? = some values) :
    ∃ v vs, values = v :: vs ∧ decimalValue? c = some v ∧ cs.mapM decimalValue? = some vs := by
  rw [List.mapM_cons] at read
  obtain ⟨v, first, read⟩ := Option.bind_eq_some_iff.mp read
  obtain ⟨vs, more, same⟩ := Option.bind_eq_some_iff.mp read
  cases same
  exact ⟨v, vs, rfl, first, more⟩

/-- Nor are they needed: what is left without them has the value of all digits. -/
theorem mapM_significant {digits : List Char} {values : List Nat}
    (read : digits.mapM decimalValue? = some values) :
    ∃ vs, (digits.dropWhile (· = '0')).mapM decimalValue? = some vs ∧
      Numeral.ofDigits vs = Numeral.ofDigits values := by
  suffices readable : ∃ vs, (digits.dropWhile (· = '0')).mapM decimalValue? = some vs by
    obtain ⟨vs, left⟩ := readable
    obtain ⟨all, again, same⟩ := mapM_dropZeros left
    rw [read] at again
    cases again
    exact ⟨vs, left, same.symm⟩
  induction digits generalizing values with
  | nil => exact ⟨values, read⟩
  | cons c cs ih =>
    obtain ⟨v, vs, rfl, -, more⟩ := mapM_decimalValue?_cons read
    by_cases zero : c = '0'
    · rw [List.dropWhile_cons_of_pos (by simpa using zero)]
      exact ih more
    · rw [List.dropWhile_cons_of_neg (by simpa using zero)]
      exact ⟨v :: vs, read⟩

/-- An exponent has its value, or is too high, or is quoted as no whole number. -/
theorem exponentValue_outcome (digits : List Char) (position : Nat) :
    (∃ values, exponentValue digits position = .ok (Numeral.ofDigits values) ∧
        digits.mapM decimalValue? = some values ∧ ¬ TooHigh digits) ∨
      (exponentValue digits position = .error (.invalid .exponentTooLarge position) ∧
        TooHigh digits) ∨
      ∃ quoted, exponentValue digits position = .error (.noInteger quoted) ∧
        digits.mapM decimalValue? = none := by
  have zeros : ['0'].mapM decimalValue? = some [0] := by decide +kernel
  have limit : (Decimal.decimalDigits maxDegree).length = 3 := by decide
  -- the digits that are converted have the value of all of them
  have value {values : List Nat} (read : (if (digits.dropWhile (· = '0')).isEmpty then ['0'] else
      digits.dropWhile (· = '0')).mapM decimalValue? = some values) :
      ∃ all, digits.mapM decimalValue? = some all ∧
        Numeral.ofDigits all = Numeral.ofDigits values := by
    split at read
    · rename_i empty
      rw [zeros] at read
      cases read
      have none : (digits.dropWhile (· = '0')).mapM decimalValue? = some [] := by
        rw [List.isEmpty_iff.mp empty]
        rfl
      obtain ⟨all, found, same⟩ := mapM_dropZeros none
      exact ⟨all, found, same⟩
    · exact mapM_dropZeros read
  have unreadable (unread : (if (digits.dropWhile (· = '0')).isEmpty then ['0'] else
      digits.dropWhile (· = '0')).mapM decimalValue? = none) : digits.mapM decimalValue? = none := by
    split at unread
    · rw [zeros] at unread
      cases unread
    · by_contra readable
      obtain ⟨values, read⟩ := Option.ne_none_iff_exists'.mp readable
      obtain ⟨vs, left, -⟩ := mapM_significant read
      rw [left] at unread
      cases unread
  have size : 3 < (if (digits.dropWhile (· = '0')).isEmpty then ['0'] else
      digits.dropWhile (· = '0')).length ↔ 3 < (digits.dropWhile (· = '0')).length := by
    split
    · rename_i empty
      rw [List.isEmpty_iff.mp empty]
      decide
    · exact Iff.rfl
  unfold exponentValue TooHigh
  dsimp only
  rw [limit]
  generalize (if (digits.dropWhile (· = '0')).isEmpty then ['0'] else
    digits.dropWhile (· = '0')) = significant at value unreadable size
  by_cases long : 3 < significant.length
  · rw [if_pos long]
    exact .inr (.inl ⟨rfl, .inl (size.mp long)⟩)
  · rw [if_neg long]
    cases read : significant.mapM decimalValue? with
    | none => exact .inr (.inr ⟨_, rfl, unreadable read⟩)
    | some values =>
      obtain ⟨all, found, same⟩ := value read
      dsimp only
      by_cases high : maxDegree < Numeral.ofDigits values
      · rw [if_pos high]
        exact .inr (.inl ⟨rfl, .inr ⟨all, found, same ▸ high⟩⟩)
      · rw [if_neg high]
        refine .inl ⟨all, by rw [same], found, ?_⟩
        rintro (more | ⟨others, again, above⟩)
        · exact long (size.mpr more)
        · rw [found] at again
          cases again
          exact high (same ▸ above)

/-- Of the digits 0 to 9 an exponent is too high when its value is. -/
theorem tooHigh_iff (d : Digits) : TooHigh d.chars ↔ maxDegree < d.value := by
  have outcome := exponentValue_outcome d.chars 0
  rw [exponentValue_digits] at outcome
  by_cases small : d.value ≤ maxDegree
  · rw [if_pos small] at outcome
    rcases outcome with ⟨values, -, -, fits⟩ | ⟨failed, -⟩ | ⟨quoted, failed, -⟩
    · exact iff_of_false fits (Nat.not_lt.mpr small)
    · cases failed
    · cases failed
  · rw [if_neg small] at outcome
    rcases outcome with ⟨values, read, -⟩ | ⟨-, high⟩ | ⟨quoted, failed, -⟩
    · cases read
    · exact iff_of_true high (Nat.not_le.mp small)
    · cases failed

theorem coefficient_outcome (sign : Option Bool) (n : Numeral) (position : Nat) :
    (∃ c, coefficient sign n position = .ok c ∧ ¬ TooLarge n) ∨
      (coefficient sign n position = .error (.invalid .coefficientTooLarge position) ∧
        TooLarge n) ∨
      ∃ quoted, coefficient sign n position = .error (.noDecimal quoted) := by
  unfold coefficient TooLarge
  cases n.value? with
  | none => exact .inr (.inr ⟨_, rfl⟩)
  | some d =>
    dsimp only
    by_cases fits : Binary64.ofDecimal d < Binary64.infinity
    · rw [if_pos fits]
      refine .inl ⟨_, rfl, ?_⟩
      rintro ⟨_, ⟨⟩, large⟩
      exact Nat.not_le.mpr fits large
    · rw [if_neg fits]
      exact .inr (.inl ⟨rfl, d, rfl, Nat.not_lt.mp fits⟩)

end Values

end RootFinder.Expression
