import RootFinder.Text.Lowercase.Table

/-! Lower case of a text. Every character is replaced by its partner, with two exceptions: the
dotted capital I becomes an i and a combining dot, and a capital sigma becomes a final one at the
end of a word. -/
namespace RootFinder.Text

namespace Lowercase

/-- The first neighbour that is not looked past has case. -/
def besideCased (neighbours : List Char) : Bool :=
  match neighbours.dropWhile ignorable.contains with
  | [] => false
  | c :: _ => cased.contains c

/-- The partner of one character, whatever its neighbours. -/
def partner (c : Char) : Char :=
  match runs.find? (·.covers c.toNat) with
  | some run => Char.ofNat (c.toNat + run.offset).toNat
  | none => c

/-- Lower case of `c` between the text `before`, nearest character first, and the text `after`. -/
def inContext (before : List Char) (c : Char) (after : List Char) : List Char :=
  if c = 'İ' then ['i', '\u0307']
  else if c = 'Σ' then [if besideCased before && !besideCased after then 'ς' else 'σ']
  else [partner c]

/-- Lower case of the second argument, which follows the reversed first. -/
def onward (before : List Char) : List Char → List Char
  | [] => []
  | c :: after => inContext before c after ++ onward (c :: before) after

end Lowercase

def lowercase (cs : List Char) : List Char := Lowercase.onward [] cs

end RootFinder.Text
