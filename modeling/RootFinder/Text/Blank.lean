import RootFinder.Text.CharSet

/-! Blank characters: the white space of Unicode and the four information separators. They may
stand anywhere in an expression and carry no meaning there. -/
namespace RootFinder.Text

def blanks : CharSet :=
  [(0x9, 0xD), (0x1C, 0x20), (0x85, 0x85), (0xA0, 0xA0), (0x1680, 0x1680), (0x2000, 0x200A),
    (0x2028, 0x2029), (0x202F, 0x202F), (0x205F, 0x205F), (0x3000, 0x3000)]

def isBlank (c : Char) : Bool := blanks.contains c

/-- White space proper, without the information separators U+001C to U+001F. -/
def isWhiteSpace (c : Char) : Bool := isBlank c && !(0x1C ≤ c.toNat && c.toNat ≤ 0x1F)

def removeBlanks (cs : List Char) : List Char := cs.filter (!isBlank ·)

/-- Drops the characters of a class from both ends. -/
def trim (p : Char → Bool) (cs : List Char) : List Char :=
  ((cs.dropWhile p).reverse.dropWhile p).reverse

def strip (cs : List Char) : List Char := trim isBlank cs

/-- The maximal runs of other characters between the blanks. -/
def words (cs : List Char) : List (List Char) := (cs.splitBy fun a b => isBlank a == isBlank b)
  |>.filter fun run => run.any (!isBlank ·)

theorem mem_removeBlanks {c : Char} {cs : List Char} :
    c ∈ removeBlanks cs ↔ c ∈ cs ∧ isBlank c = false := by
  simp [removeBlanks]

theorem removeBlanks_append (a b : List Char) :
    removeBlanks (a ++ b) = removeBlanks a ++ removeBlanks b := by
  simp [removeBlanks]

end RootFinder.Text
