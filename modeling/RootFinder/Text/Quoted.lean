import RootFinder.Text.Printable

/-! Quoted text, as messages show it: single quotes, unless only those occur inside; a backslash
before what would be misread, and a numbered escape for a character that cannot be seen. -/
namespace RootFinder.Text.Quoted

def hexDigit (n : Nat) : Char := Nat.digitChar (n % 16)

/-- The last `width` hexadecimal digits of a number, in lower case. -/
def hex : Nat → Nat → List Char
  | 0, _ => []
  | width + 1, n => hex width (n / 16) ++ [hexDigit n]

def mark (cs : List Char) : Char :=
  if cs.contains '\'' && !cs.contains '"' then '"' else '\''

/-- An escape has two, four or eight digits, the fewest that hold the code point. -/
def numbered (c : Char) : List Char :=
  if c.toNat < 0x100 then '\\' :: 'x' :: hex 2 c.toNat
  else if c.toNat < 0x10000 then '\\' :: 'u' :: hex 4 c.toNat
  else '\\' :: 'U' :: hex 8 c.toNat

def escape (quote c : Char) : List Char :=
  if c = quote || c = '\\' then ['\\', c]
  else match c with
    | '\n' => ['\\', 'n']
    | '\r' => ['\\', 'r']
    | '\t' => ['\\', 't']
    | c => if isPrintable c then [c] else numbered c

def encode (cs : List Char) : List Char :=
  mark cs :: cs.flatMap (escape (mark cs)) ++ [mark cs]

end Quoted

/-- The quoted form of a text. -/
def quoted (cs : List Char) : String := String.ofList (Quoted.encode cs)

end RootFinder.Text
