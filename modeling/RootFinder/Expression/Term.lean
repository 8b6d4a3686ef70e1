import RootFinder.Expression.Token

/-! Terms of an expression. A term has an optional sign and is a numeral, or the unknown with an
optional numeral before it and an optional exponent after it. Terms after the first begin with
their sign. -/
namespace RootFinder.Expression

open Text (decimalValue?)

/-- `coefficient * x ^ exponent`; a term without the unknown has exponent 0. -/
structure Term where
  exponent : Nat
  coefficient : Float
  hasUnknown : Bool

/-- The grammar wants something else than what comes next; `finish` is the length of the text. -/
def refuse (finish : Nat) (wanted : Wanted) : List Token → Error
  | [] => .invalid (.expected wanted none) finish
  | t :: _ => .invalid (.expected wanted (some t.lexeme.text)) t.position

def signText : Option Bool → List Char
  | none => []
  | some negative => (Lexeme.sign negative).text

/-- The nearest double to a signed numeral at a position. -/
def coefficient (sign : Option Bool) (n : Numeral) (position : Nat) : Except Error Float :=
  match n.value? with
  | none => .error (.noDecimal (signText sign ++ n.text))
  | some d =>
    if Binary64.ofDecimal d < Binary64.infinity then
      .ok (Binary64.make (sign.getD false) (Binary64.ofDecimal d))
    else .error (.invalid .coefficientTooLarge position)

/-- The unknown alone has coefficient 1. -/
def unit (sign : Option Bool) : Float := if sign.getD false then -1 else 1

/-- An exponent's value. Its zeros in front are dropped; of what is left, a digit string longer
than that of the highest exponent is too large unread. -/
def exponentValue (digits : List Char) (position : Nat) : Except Error Nat :=
  let significant := digits.dropWhile (· = '0')
  let significant := if significant.isEmpty then ['0'] else significant
  if (Decimal.decimalDigits maxDegree).length < significant.length then
    .error (.invalid .exponentTooLarge position)
  else
    match significant.mapM decimalValue? with
    | none => .error (.noInteger significant)
    | some values =>
      if maxDegree < Numeral.ofDigits values then .error (.invalid .exponentTooLarge position)
      else .ok (Numeral.ofDigits values)

/-- The exponent after an unknown: 1 unless a caret follows. -/
def readExponent (finish : Nat) : List Token → Except Error (Nat × List Token)
  | ⟨.caret, _⟩ :: ⟨.numeral ⟨digits, none⟩, position⟩ :: rest =>
    (exponentValue digits position).map (·, rest)
  | ⟨.caret, _⟩ :: rest => .error (refuse finish .exponent rest)
  | rest => .ok (1, rest)

/-- A term whose sign has been read. -/
def readBody (finish : Nat) (sign : Option Bool) : List Token → Except Error (Term × List Token)
  | ⟨.numeral n, position⟩ :: ⟨.unknown, _⟩ :: rest =>
    match readExponent finish rest with
    | .error e => .error e
    | .ok (exponent, rest) =>
      (coefficient sign n position).map fun c => (⟨exponent, c, true⟩, rest)
  | ⟨.numeral n, position⟩ :: rest =>
    (coefficient sign n position).map fun c => (⟨0, c, false⟩, rest)
  | ⟨.unknown, _⟩ :: rest =>
    (readExponent finish rest).map fun (exponent, rest) => (⟨exponent, unit sign, true⟩, rest)
  | rest => .error (refuse finish .term rest)

def readTerm (finish : Nat) : List Token → Except Error (Term × List Token)
  | ⟨.sign negative, _⟩ :: rest => readBody finish (some negative) rest
  | ts => readBody finish none ts

theorem readExponent_length {finish exponent : Nat} {ts rest : List Token}
    (h : readExponent finish ts = .ok (exponent, rest)) : rest.length ≤ ts.length := by
  unfold readExponent at h
  split at h
  · rename_i digits position more
    cases hv : exponentValue digits position with
    | error e => rw [hv] at h; cases h
    | ok v =>
      rw [hv] at h
      cases h
      simp only [List.length_cons]
      omega
  · cases h
  · cases h
    exact Nat.le_refl _

theorem readBody_length {finish : Nat} {sign : Option Bool} {ts rest : List Token} {term : Term}
    (h : readBody finish sign ts = .ok (term, rest)) : rest.length < ts.length := by
  unfold readBody at h
  split at h
  · rename_i n position q more
    cases he : readExponent finish more with
    | error e => rw [he] at h; cases h
    | ok r =>
      rw [he] at h
      have shorter := readExponent_length he
      cases hc : coefficient sign n position with
      | error e => rw [hc] at h; cases h
      | ok c =>
        rw [hc] at h
        cases h
        simp only [List.length_cons]
        omega
  · rename_i n position more _
    cases hc : coefficient sign n position with
    | error e => rw [hc] at h; cases h
    | ok c =>
      rw [hc] at h
      cases h
      simp
  · rename_i position more
    cases he : readExponent finish more with
    | error e => rw [he] at h; cases h
    | ok r =>
      rw [he] at h
      have shorter := readExponent_length he
      cases h
      simp only [List.length_cons]
      omega
  · cases h

theorem readTerm_length {finish : Nat} {ts rest : List Token} {term : Term}
    (h : readTerm finish ts = .ok (term, rest)) : rest.length < ts.length := by
  unfold readTerm at h
  split at h
  · have := readBody_length h
    simp only [List.length_cons]
    omega
  · exact readBody_length h

/-- The terms after the first, each of which begins with its sign. -/
def readMore (finish : Nat) (ts : List Token) : Except Error (List Term) :=
  match ts with
  | [] => .ok []
  | ⟨.sign negative, position⟩ :: rest =>
    match _h : readTerm finish (⟨.sign negative, position⟩ :: rest) with
    | .error e => .error e
    | .ok (term, rest) => (readMore finish rest).map (term :: ·)
  | ts => .error (refuse finish .sign ts)
termination_by ts.length
decreasing_by exact readTerm_length _h

/-- All terms of a token sequence over a text of length `finish`. -/
def readTerms (finish : Nat) (ts : List Token) : Except Error (List Term) :=
  match readTerm finish ts with
  | .error e => .error e
  | .ok (term, rest) => (readMore finish rest).map (term :: ·)

/-- The terms of a text without blanks. -/
def terms (cs : List Char) : Except Error (List Term) :=
  (tokens cs).bind (readTerms cs.length)

end RootFinder.Expression
