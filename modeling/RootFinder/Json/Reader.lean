import RootFinder.Binary64
import RootFinder.Json

/-! Reading JSON text. Besides the standard's values the names NaN, Infinity and -Infinity are
numbers. A text that is no value is refused with the first position at which that shows. -/
namespace RootFinder.Json

/-- What a text lacks or has too much. -/
inductive Problem
  | value
  | propertyName
  | colon
  | comma
  | extraData
  | unterminated
  | controlCharacter
  | escape
  | codePoint
  | byteOrderMark
  | digits (count : Nat)
  | depth (inArray : Bool)
deriving DecidableEq, Repr

/-- The most digits of a whole number. -/
def maxDigits : Nat := 4300

/-- The most values that stand inside one another. -/
def maxDepth : Nat := 985

def Problem.message : Problem → String
  | value => "Expecting value"
  | propertyName => "Expecting property name enclosed in double quotes"
  | colon => "Expecting ':' delimiter"
  | comma => "Expecting ',' delimiter"
  | extraData => "Extra data"
  | unterminated => "Unterminated string starting at"
  | controlCharacter => "Invalid control character at"
  | escape => "Invalid \\escape"
  | codePoint => "Invalid \\uXXXX escape"
  | byteOrderMark => "Unexpected UTF-8 BOM (decode using utf-8-sig)"
  | digits count =>
    s!"Exceeds the limit ({maxDigits} digits) for integer string conversion: value has {count} "
      ++ "digits; use sys.set_int_max_str_digits() to increase the limit"
  | depth inArray =>
    "maximum recursion depth exceeded while decoding a JSON "
      ++ (if inArray then "array" else "object") ++ " from a unicode string"

/-- Whether the message tells the place; limits are exceeded by the value as a whole. -/
def Problem.hasPlace : Problem → Bool
  | digits _ | depth _ => false
  | _ => true

/-- A problem and what is left of the text from where it lies. -/
structure Refusal where
  problem : Problem
  rest : List Char

namespace Reader

def isSpace (c : Char) : Bool := c == ' ' || c == '\t' || c == '\n' || c == '\r'

def skip (cs : List Char) : List Char := cs.dropWhile isSpace

def hexValue? (c : Char) : Option Nat :=
  if '0' ≤ c ∧ c ≤ '9' then some (c.toNat - '0'.toNat)
  else if 'a' ≤ c ∧ c ≤ 'f' then some (c.toNat - 'a'.toNat + 10)
  else if 'A' ≤ c ∧ c ≤ 'F' then some (c.toNat - 'A'.toNat + 10)
  else none

/-- The value of four hexadecimal digits. -/
def unit? (a b c d : Char) : Option Nat := do
  let values ← [a, b, c, d].mapM hexValue?
  pure (values.foldl (fun n v => 16 * n + v) 0)

/-- Two sixteen-bit units that stand for one character. -/
def joined? (high low : Nat) : Option Char :=
  if 0xD800 ≤ high ∧ high < 0xDC00 ∧ 0xDC00 ≤ low ∧ low < 0xE000 then
    some (Char.ofNat (0x10000 + (high - 0xD800) * 0x400 + (low - 0xDC00)))
  else none

/-- A unit on its own; half of a pair becomes the replacement character. -/
def single (n : Nat) : Char := if 0xD800 ≤ n ∧ n < 0xE000 then '\uFFFD' else Char.ofNat n

def simpleEscape? : Char → Option Char
  | '"' => some '"'
  | '\\' => some '\\'
  | '/' => some '/'
  | 'b' => some '\x08'
  | 'f' => some '\x0C'
  | 'n' => some '\n'
  | 'r' => some '\r'
  | 't' => some '\t'
  | _ => none

/-- The characters up to the closing quote. `opening` is the text from the opening quote on, and
`fuel` bounds the characters left. -/
def characters (opening : List Char) : Nat → List Char → List Char →
    Except Refusal (List Char × List Char)
  | 0, _, _ => .error ⟨.unterminated, opening⟩
  | fuel + 1, taken, cs =>
    match cs with
    | [] => .error ⟨.unterminated, opening⟩
    | '"' :: rest => .ok (taken.reverse, rest)
    | '\\' :: 'u' :: a :: b :: c :: d :: e :: rest =>
      match unit? a b c d with
      | none => .error ⟨.codePoint, cs.tail⟩
      | some n =>
        if 0xD800 ≤ n ∧ n < 0xDC00 then
          match e :: rest with
          | '\\' :: 'u' :: f :: g :: h :: i :: more =>
            if more.isEmpty then characters opening fuel (single n :: taken) (e :: rest)
            else
              match unit? f g h i with
              | none => .error ⟨.codePoint, rest⟩
              | some m =>
                match joined? n m with
                | some c => characters opening fuel (c :: taken) more
                | none => characters opening fuel (single n :: taken) (e :: rest)
          | _ => characters opening fuel (single n :: taken) (e :: rest)
        else characters opening fuel (single n :: taken) (e :: rest)
    | '\\' :: 'u' :: _ => .error ⟨.codePoint, cs.tail⟩
    | '\\' :: c :: rest =>
      match simpleEscape? c with
      | some c => characters opening fuel (c :: taken) rest
      | none => .error ⟨.escape, cs⟩
    | '\\' :: [] => .error ⟨.unterminated, opening⟩
    | c :: rest =>
      if c.toNat < 0x20 then .error ⟨.controlCharacter, cs⟩
      else characters opening fuel (c :: taken) rest

/-- A string from its opening quote on. -/
def string (cs : List Char) : Except Refusal (String × List Char) :=
  (characters cs cs.length [] cs.tail).map fun (taken, rest) => (String.ofList taken, rest)

def asciiDigits (cs : List Char) : List Char := cs.takeWhile Char.isDigit

def ofDigits (cs : List Char) : Nat := cs.foldl (fun n c => 10 * n + (c.toNat - '0'.toNat)) 0

/-- The digits before the point: a zero alone, or digits that begin with another one. -/
def wholePart : List Char → List Char × List Char
  | '0' :: rest => (['0'], rest)
  | cs => (asciiDigits cs, cs.dropWhile Char.isDigit)

/-- The digits after a point, if a point and a digit come next. -/
def fractionPart : List Char → List Char × List Char
  | '.' :: d :: rest =>
    if d.isDigit then (d :: asciiDigits rest, rest.dropWhile Char.isDigit)
    else ([], '.' :: d :: rest)
  | cs => ([], cs)

/-- The power of ten, if there is a complete one. -/
def exponentPart (cs : List Char) : Option Int × List Char :=
  let read (negative : Bool) (rest : List Char) : Option Int × List Char :=
    match asciiDigits rest with
    | [] => (none, cs)
    | digits =>
      (some (if negative then -(ofDigits digits : Int) else ofDigits digits),
        rest.dropWhile Char.isDigit)
  match cs with
  | 'e' :: '-' :: rest | 'E' :: '-' :: rest => read true rest
  | 'e' :: '+' :: rest | 'E' :: '+' :: rest => read false rest
  | 'e' :: rest | 'E' :: rest => read false rest
  | _ => (none, cs)

/-- A number without its sign; a fraction or a power of ten makes it a double. -/
def number? (negative : Bool) (cs : List Char) : Option (Json × List Char) :=
  match wholePart cs with
  | ([], _) => none
  | (whole, rest) =>
    let (fraction, rest) := fractionPart rest
    let (exponent, rest) := exponentPart rest
    let n := ofDigits (whole ++ fraction)
    if fraction.isEmpty && exponent.isNone then some (.int (if negative then -n else n), rest)
    else some (.float (Binary64.read negative ⟨n, exponent.getD 0 - fraction.length⟩), rest)

/-- A number whose digits begin after its sign; it is refused from the sign on. -/
def number (negative : Bool) (cs digits : List Char) : Except Refusal (Json × List Char) :=
  match number? negative digits with
  | none => .error ⟨.value, cs⟩
  | some (.int n, rest) =>
    let count := digits.length - rest.length
    if maxDigits < count then .error ⟨.digits count, cs⟩ else .ok (.int n, rest)
  | some found => .ok found

/-- Values without parts. -/
def scalar (cs : List Char) : Except Refusal (Json × List Char) :=
  match cs with
  | '"' :: _ => (string cs).map fun (s, rest) => (.string s, rest)
  | 'n' :: 'u' :: 'l' :: 'l' :: rest => .ok (.null, rest)
  | 't' :: 'r' :: 'u' :: 'e' :: rest => .ok (.bool true, rest)
  | 'f' :: 'a' :: 'l' :: 's' :: 'e' :: rest => .ok (.bool false, rest)
  | 'N' :: 'a' :: 'N' :: rest => .ok (.float (Binary64.ofParts .undefined), rest)
  | 'I' :: 'n' :: 'f' :: 'i' :: 'n' :: 'i' :: 't' :: 'y' :: rest =>
    .ok (.float (Binary64.ofParts (.infinite false)), rest)
  | '-' :: 'I' :: 'n' :: 'f' :: 'i' :: 'n' :: 'i' :: 't' :: 'y' :: rest =>
    .ok (.float (Binary64.ofParts (.infinite true)), rest)
  | '-' :: digits => number true cs digits
  | _ => number false cs cs

mutual

/-- A value with `room` for values inside one another; `fuel` bounds the calls below. -/
def value (room : Nat) : Nat → List Char → Except Refusal (Json × List Char)
  | 0, cs => .error ⟨.value, cs⟩
  | fuel + 1, cs =>
    match cs with
    | '[' :: rest =>
      if room = 0 then .error ⟨.depth true, cs⟩
      else
        match skip rest with
        | ']' :: rest => .ok (.array [], rest)
        | rest => (items (room - 1) fuel [] rest).map fun (found, rest) => (.array found, rest)
    | '\x7b' :: rest =>
      if room = 0 then .error ⟨.depth false, cs⟩
      else
        match skip rest with
        | '\x7d' :: rest => .ok (.object [], rest)
        | rest => (members (room - 1) fuel [] rest).map fun (found, rest) => (.object found, rest)
    | _ => scalar cs

/-- Items up to the closing bracket, after those already `found`. -/
def items (room : Nat) : Nat → List Json → List Char → Except Refusal (List Json × List Char)
  | 0, _, cs => .error ⟨.value, cs⟩
  | fuel + 1, found, cs =>
    match value room fuel cs with
    | .error refusal => .error refusal
    | .ok (item, rest) =>
      match skip rest with
      | ']' :: rest => .ok ((item :: found).reverse, rest)
      | ',' :: rest => items room fuel (item :: found) (skip rest)
      | rest => .error ⟨.comma, rest⟩

/-- Members up to the closing brace, after those already `found`. -/
def members (room : Nat) : Nat → List (String × Json) → List Char →
    Except Refusal (List (String × Json) × List Char)
  | 0, _, cs => .error ⟨.value, cs⟩
  | fuel + 1, found, cs =>
    match cs with
    | '"' :: _ =>
      match string cs with
      | .error refusal => .error refusal
      | .ok (name, rest) =>
        match skip rest with
        | ':' :: rest =>
          match value room fuel (skip rest) with
          | .error refusal => .error refusal
          | .ok (v, rest) =>
            match skip rest with
            | '\x7d' :: rest => .ok (Json.insert found name v, rest)
            | ',' :: rest => members room fuel (Json.insert found name v) (skip rest)
            | rest => .error ⟨.comma, rest⟩
        | rest => .error ⟨.colon, rest⟩
    | _ => .error ⟨.propertyName, cs⟩

end

end Reader

/-- Why a text is no JSON value, with the place by line, column and character. -/
structure ReadError where
  problem : Problem
  line : Nat
  column : Nat
  position : Nat
deriving DecidableEq, Repr

def ReadError.message (e : ReadError) : String :=
  if e.problem.hasPlace then
    s!"{e.problem.message}: line {e.line} column {e.column} (char {e.position})"
  else e.problem.message

def Refusal.locate (text : List Char) (refusal : Refusal) : ReadError :=
  let before := text.take (text.length - refusal.rest.length)
  ⟨refusal.problem, before.count '\n' + 1, (before.reverse.takeWhile (· != '\n')).length + 1,
    before.length⟩

/-- The value that makes up a whole text. -/
def read (text : List Char) : Except ReadError Json :=
  let result : Except Refusal Json :=
    match text with
    | '\uFEFF' :: _ => .error ⟨.byteOrderMark, text⟩
    | _ =>
      match Reader.value maxDepth (2 * text.length + 2) (Reader.skip text) with
      | .error refusal => .error refusal
      | .ok (j, rest) =>
        if (Reader.skip rest).isEmpty then .ok j else .error ⟨.extraData, Reader.skip rest⟩
  match result with
  | .ok j => .ok j
  | .error refusal => .error (refusal.locate text)

end RootFinder.Json
