import Mathlib
import RootFinder.Proofs.Expression.Faults

/-! Tokens as a splitting of the text. There is at most one way to cut a text into signs, unknowns,
carets and numerals whose digit runs are as long as they can be, and it is the one that is scanned.
Where there is none, scanning stops at the first character that is left over. -/
namespace RootFinder.Expression

open Text (isDigit)

def spelling (ts : List Token) : List Char := ts.flatMap (·.lexeme.text)

/-- A run of digits stands `start` characters into the text, with no digit before it or after it. -/
structure IsRun (cs : List Char) (start : Nat) (digits : List Char) : Prop where
  begun : digits ≠ []
  digit : ∀ c ∈ digits, isDigit c = true
  maximal : ∃ before after, cs = before ++ digits ++ after ∧ before.length = start ∧
    (∀ c ∈ before.getLast?, isDigit c = false) ∧ ∀ c ∈ after.head?, isDigit c = false

/-- A numeral stands `start` characters into the text: a digit run, and a second one behind a point
if it has one. -/
structure IsNumeral (cs : List Char) (start : Nat) (n : Numeral) : Prop where
  whole : IsRun cs start n.whole
  fraction : ∀ digits, n.fraction = some digits → IsRun cs (start + n.whole.length + 1) digits

/-- The tokens cut up the text as far as `rest`. -/
structure Splitting (cs : List Char) (ts : List Token) (rest : List Char) : Prop where
  text : spelling ts ++ rest = cs
  position : ∀ before t after, ts = before ++ t :: after → t.position = (spelling before).length
  apart : ∀ before m p n q after, ts ≠ before ++ ⟨.numeral m, p⟩ :: ⟨.numeral n, q⟩ :: after
  numeral : ∀ n start, ⟨.numeral n, start⟩ ∈ ts → IsNumeral cs start n

def BeginsNone (c : Char) : Prop := c ≠ '+' ∧ c ≠ '-' ∧ isDigit c = false ∧ c ≠ 'x' ∧ c ≠ '^'

/-- The tokens cut up the text as far as a character that begins none. If that is a point, it does not
stand between two digits, or the numeral before it has a point already. -/
structure Stuck (cs : List Char) (ts : List Token) (c : Char) (rest : List Char) : Prop where
  splitting : Splitting cs ts (c :: rest)
  stray : BeginsNone c
  point : c = '.' → (∀ d ∈ (spelling ts).getLast?, isDigit d = false) ∨
    (∀ d ∈ rest.head?, isDigit d = false) ∨
    ∃ whole places p, ts.getLast? = some ⟨.numeral ⟨whole, some places⟩, p⟩

section Numerals

variable {n : Numeral} {rest : List Char}

private theorem head_dropWhile (cs : List Char) :
    ∀ c ∈ (cs.dropWhile isDigit).head?, isDigit c = false := by
  intro c head
  have stops := List.head?_dropWhile_not isDigit cs
  rw [head] at stops
  simpa using stops

theorem split_cut {c : Char} {cs : List Char} (digit : isDigit c = true) :
    (Numeral.split (c :: cs)).1.Cut (Numeral.split (c :: cs)).2 := by
  have begun : (c :: cs).takeWhile isDigit ≠ [] := by
    rw [List.takeWhile_cons_of_pos digit]
    exact List.cons_ne_nil _ _
  have run (cs : List Char) : ∀ c ∈ cs.takeWhile isDigit, isDigit c = true :=
    fun _ member => List.mem_takeWhile_imp member
  have stops := head_dropWhile (c :: cs)
  unfold Numeral.split
  dsimp only
  split
  next d rest after =>
    split
    next inner =>
      refine ⟨begun, run _, ?_, head_dropWhile rest, nofun⟩
      rintro _ ⟨⟩
      exact ⟨List.cons_ne_nil _ _, List.forall_mem_cons.mpr ⟨inner, run rest⟩⟩
    next outer =>
      refine ⟨begun, run _, nofun, ?_, ?_⟩
      · rintro _ ⟨⟩
        exact isDigit_point
      · rintro - _ _ ⟨⟩
        exact Bool.eq_false_iff.mpr outer
  next other =>
    refine ⟨begun, run _, nofun, stops, fun _ d more same => ?_⟩
    exact absurd same (other d more)

theorem Numeral.Cut.head_text (cut : n.Cut rest) : ∃ c cs, n.text = c :: cs ∧ isDigit c = true := by
  obtain ⟨c, cs, same⟩ := List.exists_cons_of_ne_nil cut.begun
  refine ⟨c, cs ++ (n.fraction.elim [] ('.' :: ·)), ?_, cut.whole c (same ▸ List.mem_cons_self)⟩
  unfold Numeral.text
  cases n.fraction with
  | none => rw [same]; exact (List.append_nil _).symm
  | some digits => rw [same]; rfl

/-- A numeral comes first in a text when the text does not let it go on. -/
theorem first?_numeral {cs : List Char} :
    first? cs = some (.numeral n, rest) ↔ n.text ++ rest = cs ∧ n.Cut rest := by
  constructor
  · intro first
    refine ⟨text_first first, ?_⟩
    cases cs with
    | nil => cases first
    | cons c cs =>
      rw [first?] at first
      split_ifs at first with sign digit unknown caret <;> cases first
      exact split_cut digit
  · rintro ⟨rfl, cut⟩
    have split := split_eq cut
    obtain ⟨c, cs, same, digit⟩ := cut.head_text
    have notSign : ¬ (c = '+' ∨ c = '-') := by
      rintro (rfl | rfl) <;> revert digit <;> decide +kernel
    rw [same, List.cons_append] at split ⊢
    rw [first?, if_neg notSign, if_pos digit, split]

/-- The lexemes other than numerals are single characters. -/
theorem first?_single {l : Lexeme} (single : ∀ n, l ≠ .numeral n) :
    first? (l.text ++ rest) = some (l, rest) := by
  cases l with
  | sign negative => cases negative <;> rfl
  | numeral n => exact absurd rfl (single n)
  | unknown => rfl
  | caret => rfl

theorem first?_eq_none {c : Char} : first? (c :: rest) = none ↔ BeginsNone c := by
  rw [first?, BeginsNone]
  split_ifs with sign digit unknown caret
  · rcases sign with rfl | rfl <;> simp
  all_goals simp_all

end Numerals

section Splittings

variable {cs rest : List Char} {ts us : List Token} {ls : List Lexeme}

theorem spelling_append (ts us : List Token) : spelling (ts ++ us) = spelling ts ++ spelling us :=
  List.flatMap_append

theorem spelling_eq (ts : List Token) : spelling ts = (ts.map Token.lexeme).flatMap Lexeme.text := by
  rw [spelling, List.flatMap_map]

/-- Lexemes that are as long as the text allows are read off it. -/
theorem begins_of_cut (cut : ∀ front n back, ls = front ++ .numeral n :: back →
      n.Cut (back.flatMap Lexeme.text ++ rest)) : Begins (ls.flatMap Lexeme.text ++ rest) ls rest := by
  induction ls with
  | nil => exact .nil rest
  | cons l ls ih =>
    have others := ih fun front n back same => cut (l :: front) n back (congrArg (l :: ·) same)
    rw [List.flatMap_cons, List.append_assoc]
    refine .cons ?_ others
    cases l with
    | numeral n => exact first?_numeral.mpr ⟨rfl, cut [] n ls rfl⟩
    | _ => exact first?_single nofun

theorem cut_of_begins {front back : List Lexeme} {n : Numeral}
    (read : Begins cs (front ++ .numeral n :: back) rest) :
    n.Cut (back.flatMap Lexeme.text ++ rest) := by
  obtain ⟨mid, -, last⟩ := read.of_append
  cases last with
  | cons first more =>
    rw [more.text]
    exact (first?_numeral.mp first).2

/-- Before anything other than a numeral there is no digit. -/
theorem getLast?_spelling (apart : ∀ front n p, ts ≠ front ++ [⟨.numeral n, p⟩]) :
    ∀ c ∈ (spelling ts).getLast?, isDigit c = false := by
  intro c last
  rcases List.eq_nil_or_concat ts with rfl | ⟨front, ⟨l, p⟩, rfl⟩
  · cases last
  · rw [List.concat_eq_append] at apart last
    rw [spelling_append] at last
    cases l with
    | numeral n => exact absurd rfl (apart front n p)
    | sign negative =>
      cases negative <;> simp [spelling, Lexeme.text] at last <;> subst last <;> decide +kernel
    | unknown =>
      simp [spelling, Lexeme.text] at last
      subst last
      decide +kernel
    | caret =>
      simp [spelling, Lexeme.text] at last
      subst last
      decide +kernel

/-- A numeral that is cut off in one place is a numeral of the whole text. -/
theorem Numeral.Cut.isNumeral {before : List Char} {n : Numeral} (cut : n.Cut rest)
    (apart : ∀ c ∈ before.getLast?, isDigit c = false) :
    IsNumeral (before ++ n.text ++ rest) before.length n := by
  obtain ⟨whole, fraction⟩ := n
  cases fraction with
  | none =>
    exact ⟨⟨cut.begun, cut.whole, before, rest, rfl, rfl, apart, cut.apart⟩, nofun⟩
  | some places =>
    refine ⟨⟨cut.begun, cut.whole, before, '.' :: places ++ rest, ?_, rfl, apart, ?_⟩, ?_⟩
    · simp [Numeral.text]
    · rintro c ⟨⟩
      exact isDigit_point
    · rintro _ ⟨⟩
      obtain ⟨begun, digits⟩ := cut.fraction places rfl
      refine ⟨begun, digits, before ++ whole ++ ['.'], rest, ?_, ?_, ?_, cut.apart⟩
      · simp [Numeral.text]
      · rw [List.length_append, List.length_append, List.length_singleton]
      · rw [List.getLast?_append]
        rintro c ⟨⟩
        exact isDigit_point

/-- A run goes on to where the text does not have a digit any more. -/
theorem IsRun.after {start : Nat} {digits before : List Char} (run : IsRun cs start digits)
    (text : before ++ digits ++ rest = cs) (place : before.length = start) :
    ∀ c ∈ rest.head?, isDigit c = false := by
  obtain ⟨front, after, same, length, -, stops⟩ := run.maximal
  rw [← text, List.append_assoc, List.append_assoc] at same
  obtain ⟨rfl, tail⟩ := List.append_inj same (place.trans length.symm)
  obtain rfl := List.append_cancel_left tail
  exact stops

/-- A numeral of the whole text is as long as what follows it allows, apart from a point. -/
theorem IsNumeral.cut {before : List Char} {n : Numeral} (numeral : IsNumeral cs before.length n)
    (text : before ++ n.text ++ rest = cs)
    (point : n.fraction = none → ∀ d more, rest = '.' :: d :: more → isDigit d = false) :
    n.Cut rest := by
  obtain ⟨whole, fraction⟩ := n
  have digits : ∀ digits, fraction = some digits → digits ≠ [] ∧ ∀ c ∈ digits, isDigit c = true :=
    fun digits same => ⟨(numeral.fraction digits same).begun, (numeral.fraction digits same).digit⟩
  refine ⟨numeral.whole.begun, numeral.whole.digit, digits, ?_, point⟩
  cases fraction with
  | none => exact numeral.whole.after text rfl
  | some places =>
    have through : before ++ whole ++ ['.'] ++ places ++ rest = cs := by
      rw [← text]
      simp [Numeral.text]
    refine (numeral.fraction places rfl).after through ?_
    rw [List.length_append, List.length_append, List.length_singleton]

theorem position_of_placed {start finish : Nat} (placed : Placed finish start ts)
    {before after : List Token} {t : Token} (same : ts = before ++ t :: after) :
    t.position = start + (spelling before).length := by
  induction before generalizing start ts with
  | nil =>
    subst same
    exact placed.1
  | cons u before ih =>
    subst same
    have later := ih placed.2 rfl
    rw [later, Nat.add_assoc]
    exact congrArg (start + ·) List.length_append.symm

theorem length_of_placed {start finish : Nat} (placed : Placed finish start ts) :
    start + (spelling ts).length = finish := by
  induction ts generalizing start with
  | nil => exact placed
  | cons t ts ih =>
    rw [← ih placed.2, Nat.add_assoc]
    exact congrArg (start + ·) List.length_append

/-- After a numeral comes no digit, and so no other numeral. -/
theorem apart_of_begins (read : Begins cs (ts.map Token.lexeme) rest) (before after : List Token)
    (m n : Numeral) (p q : Nat) : ts ≠ before ++ ⟨.numeral m, p⟩ :: ⟨.numeral n, q⟩ :: after := by
  rintro rfl
  rw [List.map_append, List.map_cons, List.map_cons] at read
  have first := cut_of_begins read
  rw [List.append_cons] at read
  obtain ⟨c, cs, same, digit⟩ := (cut_of_begins read).head_text
  have next := first.apart c (by rw [List.flatMap_cons, Lexeme.text, same]; rfl)
  rw [digit] at next
  cases next

/-- Lexemes that are read off a text are a splitting of it when they are put where they stand. -/
theorem splitting_of_begins (read : Begins cs (ts.map Token.lexeme) rest)
    (position : ∀ before t after, ts = before ++ t :: after →
      t.position = (spelling before).length) : Splitting cs ts rest := by
  have apart := apart_of_begins read
  refine ⟨by rw [spelling_eq, read.text], position, fun before m p n q after =>
    apart before after m n p q, fun n start member => ?_⟩
  obtain ⟨before, after, rfl⟩ := List.append_of_mem member
  obtain rfl : start = (spelling before).length := position before _ after rfl
  have front : ∀ front m p, before ≠ front ++ [⟨.numeral m, p⟩] := by
    rintro front m p rfl
    exact apart front after m n p _ (List.append_assoc _ _ _)
  have text := read.text
  rw [List.map_append, List.map_cons] at read text
  have numeral := (cut_of_begins read).isNumeral (getLast?_spelling front)
  rw [← text, List.flatMap_append, List.flatMap_cons, ← spelling_eq, List.append_assoc,
    List.append_assoc]
  rwa [List.append_assoc] at numeral

/-- No token begins with a point. -/
theorem Splitting.exists_head {t : Token} (splitting : Splitting cs ts rest) (member : t ∈ ts) :
    ∃ c more, t.lexeme.text = c :: more ∧ c ≠ '.' := by
  obtain ⟨l, p⟩ := t
  cases l with
  | sign negative => cases negative <;> exact ⟨_, [], rfl, by decide⟩
  | unknown => exact ⟨'x', [], rfl, by decide⟩
  | caret => exact ⟨'^', [], rfl, by decide⟩
  | numeral n =>
    have run := (splitting.numeral n p member).whole
    obtain ⟨c, digits, begun⟩ := List.exists_cons_of_ne_nil run.begun
    have digit := run.digit c (begun ▸ List.mem_cons_self)
    obtain ⟨more, text⟩ : ∃ more, n.text = c :: more := by
      unfold Numeral.text
      rw [begun]
      cases n.fraction <;> exact ⟨_, rfl⟩
    refine ⟨c, more, text, ?_⟩
    rintro rfl
    rw [isDigit_point] at digit
    cases digit

/-- A splitting is read off the text, if a point that is left over belongs to no numeral. -/
theorem begins_of_splitting (splitting : Splitting cs ts rest)
    (point : ∀ front whole p d more, ts = front ++ [⟨.numeral ⟨whole, none⟩, p⟩] →
      rest = '.' :: d :: more → isDigit d = false) : Begins cs (ts.map Token.lexeme) rest := by
  have text := splitting.text
  rw [spelling_eq] at text
  rw [← text]
  refine begins_of_cut fun front n back same => ?_
  obtain ⟨before, others, rfl, rfl, tail⟩ := List.map_eq_append_iff.mp same
  obtain ⟨⟨_, p⟩, after, rfl, rfl, rfl⟩ := List.map_eq_cons_iff.mp tail
  obtain rfl : p = (spelling before).length := splitting.position before _ after rfl
  have numeral := splitting.numeral n _ (List.mem_append_right before List.mem_cons_self)
  refine numeral.cut ?_ ?_
  · rw [← text]
    simp [spelling_eq, Lexeme.text]
  · intro whole d more next
    obtain ⟨digits, _⟩ := n
    obtain rfl := whole
    cases after with
    | nil => exact point before digits _ d more rfl next
    | cons t after =>
      have member : t ∈ before ++ ⟨.numeral ⟨digits, none⟩, (spelling before).length⟩ :: t :: after :=
        by simp
      obtain ⟨c, others, head, other⟩ := splitting.exists_head member
      rw [List.map_cons, List.flatMap_cons, head] at next
      exact absurd (List.cons.inj next).1 other

/-- Tokens that stand where they are put are told by their lexemes. -/
theorem Splitting.unique {rest' : List Char} (splitting : Splitting cs ts rest)
    (other : Splitting cs us rest') (same : ts.map Token.lexeme = us.map Token.lexeme) : ts = us := by
  have length := congrArg List.length same
  rw [List.length_map, List.length_map] at length
  refine List.ext_getElem length fun i left right => ?_
  have lexeme : ts[i].lexeme = us[i].lexeme := by
    simpa [left, right] using congrArg (·[i]?) same
  have front : spelling (ts.take i) = spelling (us.take i) := by
    rw [spelling_eq, spelling_eq, List.map_take, List.map_take, same]
  have position : ts[i].position = us[i].position := by
    rw [splitting.position (ts.take i) ts[i] (ts.drop (i + 1)) (by simp),
      other.position (us.take i) us[i] (us.drop (i + 1)) (by simp), front]
  obtain ⟨lexeme, position⟩ := And.intro lexeme position
  exact (Token.mk.injEq ..).mpr ⟨lexeme, position⟩

/-- Lexemes one after the other, each where the one before it ends. -/
def put (start : Nat) : List Lexeme → List Token
  | [] => []
  | l :: ls => ⟨l, start⟩ :: put (start + l.text.length) ls

theorem lexemes_put (start : Nat) (ls : List Lexeme) : (put start ls).map Token.lexeme = ls := by
  induction ls generalizing start with
  | nil => rfl
  | cons l ls ih => rw [put, List.map_cons, ih]

theorem placed_put (start : Nat) (ls : List Lexeme) :
    Placed (start + width ls) start (put start ls) := by
  induction ls generalizing start with
  | nil => rfl
  | cons l ls ih =>
    have more := ih (start + l.text.length)
    rw [Nat.add_assoc, ← width_cons] at more
    exact ⟨rfl, more⟩

theorem splitting_of_placed {finish : Nat} (read : Begins cs (ts.map Token.lexeme) rest)
    (placed : Placed finish 0 ts) : Splitting cs ts rest := by
  refine splitting_of_begins read fun before t after same => ?_
  rw [position_of_placed placed same, Nat.zero_add]

/-- A point that is left over belongs to no numeral. -/
theorem point_of_begins (read : Begins cs (ts.map Token.lexeme) ('.' :: rest)) :
    (∀ d ∈ (spelling ts).getLast?, isDigit d = false) ∨ (∀ d ∈ rest.head?, isDigit d = false) ∨
      ∃ whole places p, ts.getLast? = some ⟨.numeral ⟨whole, some places⟩, p⟩ := by
  by_cases last : ∃ front n p, ts = front ++ [⟨.numeral n, p⟩]
  · obtain ⟨front, ⟨whole, fraction⟩, p, rfl⟩ := last
    rw [List.map_append] at read
    have cut := cut_of_begins read
    cases fraction with
    | none =>
      refine .inr (.inl fun d head => ?_)
      obtain ⟨more, rfl⟩ := List.head?_eq_some_iff.mp head
      exact cut.point rfl d more rfl
    | some places => exact .inr (.inr ⟨whole, places, p, List.getLast?_concat⟩)
  · exact .inl (getLast?_spelling fun front n p same => last ⟨front, n, p, same⟩)

/-- A point that is left over and comes after a numeral without one is not followed by a digit. -/
theorem Stuck.begins {c : Char} (stuck : Stuck cs ts c rest) :
    Begins cs (ts.map Token.lexeme) (c :: rest) := by
  refine begins_of_splitting stuck.splitting ?_
  rintro front whole p d more rfl same
  obtain ⟨rfl, rfl⟩ := List.cons.inj same
  rcases stuck.point rfl with before | after | ⟨_, _, _, last⟩
  · have run := (stuck.splitting.numeral ⟨whole, none⟩ p (by simp)).whole
    have text : spelling (front ++ [⟨.numeral ⟨whole, none⟩, p⟩]) = spelling front ++ whole := by
      simp [spelling, Lexeme.text, Numeral.text]
    rw [text, List.getLast?_append_of_ne_nil _ run.begun] at before
    have outside := before _ (List.getLast?_eq_some_getLast run.begun)
    rw [run.digit _ (List.getLast_mem run.begun)] at outside
    cases outside
  · exact after d rfl
  · simp at last


end Splittings

section Scanned

variable {cs : List Char}

theorem begins_nil {ls : List Lexeme} {rest : List Char} (read : Begins [] ls rest) :
    ls = [] ∧ rest = [] := by
  cases read with
  | nil => exact ⟨rfl, rfl⟩
  | cons first => cases first

/-- The tokens that are scanned are the splitting of the whole text. -/
theorem tokens_eq_ok {ts : List Token} : tokens cs = .ok ts ↔ Splitting cs ts [] := by
  have scanned := scan_tokenized 0 cs
  unfold tokens
  generalize scan 0 cs = result at scanned
  constructor
  · rintro rfl
    cases scanned with
    | all read placed => exact splitting_of_placed read placed
  · intro splitting
    have part := begins_of_splitting splitting nofun
    cases scanned with
    | all read placed =>
      obtain ⟨more, same, back⟩ := read.prefix_of_stop rfl part
      obtain ⟨rfl, -⟩ := begins_nil back
      rw [List.append_nil] at same
      rw [(splitting_of_placed read placed).unique splitting same]
    | stray read none =>
      obtain ⟨more, -, back⟩ := read.prefix_of_stop none part
      cases (begins_nil back).2

/-- Scanning stops where the splitting is stuck. -/
theorem tokens_eq_error {e : Error} : tokens cs = .error e ↔ ∃ ts c rest, Stuck cs ts c rest ∧
    e = .invalid (.unexpected c) (spelling ts).length := by
  have scanned := scan_tokenized 0 cs
  unfold tokens
  generalize scan 0 cs = result at scanned
  constructor
  · rintro rfl
    cases scanned with
    | @stray before c rest read none =>
      have same := lexemes_put 0 before
      rw [← same] at read
      have splitting := splitting_of_placed read (placed_put 0 before)
      refine ⟨put 0 before, c, rest, ⟨splitting, first?_eq_none.mp none, ?_⟩, ?_⟩
      · rintro rfl
        exact point_of_begins read
      · rw [Nat.zero_add, width, spelling_eq, same]
  · rintro ⟨ts, c, rest, stuck, rfl⟩
    have part := stuck.begins
    cases scanned with
    | all read placed =>
      obtain ⟨more, -, back⟩ := read.prefix_of_stop rfl part
      cases back with
      | cons first =>
        rw [first?_eq_none.mpr stuck.stray] at first
        cases first
    | stray read none =>
      obtain ⟨more, same, back⟩ := read.prefix_of_stop none part
      cases back with
      | nil => rw [Nat.zero_add, width, spelling_eq, same, List.append_nil]
      | cons first =>
        rw [first?_eq_none.mpr stuck.stray] at first
        cases first

end Scanned

/-- The tokens of a text are its splitting. Scanning always comes to an end: with the tokens, or where
there is no splitting with the first character that is left over. -/
theorem tokens_splitting (cs : List Char) :
    (∀ ts, tokens cs = .ok ts ↔ Splitting cs ts []) ∧
    ((∃ e, tokens cs = .error e) ↔ ¬ ∃ ts, Splitting cs ts []) ∧
    ∀ e, tokens cs = .error e ↔ ∃ ts c rest, Stuck cs ts c rest ∧
      e = .invalid (.unexpected c) (spelling ts).length := by
  refine ⟨fun ts => tokens_eq_ok, ?_, fun e => tokens_eq_error⟩
  simp only [← tokens_eq_ok]
  cases tokens cs <;> simp

example : tokens "1.2.3".toList = .error (.invalid (.unexpected '.') 3) := by decide +kernel

end RootFinder.Expression
