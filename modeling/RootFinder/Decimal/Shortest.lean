import RootFinder.Binary64

/-! The shortest decimal that reads back as a given magnitude. For one digit, two, and so on up
to seventeen, the two neighbours of the magnitude among the decimals of that many digits are
tried, the nearer first; the first that reads back is the answer. -/
namespace RootFinder.Decimal

open Binary64 (units one ofDecimal)

/-- The power of ten next above a magnitude: it lies below `10 ^ n` and not below
`10 ^ (n - 1)`. -/
def leadingPlace (rank : Nat) : Int :=
  (decimalDigits (units rank * 10 ^ 343 / one)).length - 343

/-- The neighbours of `num / den` among the whole numbers, the nearer first. -/
def neighbours (num den : Nat) : List Nat :=
  let below := num / den
  let near := roundDiv num den
  [near, if near = below then below + 1 else below]

/-- The neighbours of a magnitude on the grid of multiples of `10 ^ place`. -/
def candidates (rank : Nat) (place : Int) : List Decimal :=
  (neighbours (units rank * 10 ^ (-place).toNat) (one * 10 ^ place.toNat)).map (⟨·, place⟩)

/-- The magnitude itself, written out. -/
def exact (rank : Nat) : Decimal := ⟨units rank * 5 ^ 1074, -1074⟩

def shortest (rank : Nat) : Decimal :=
  let found := (List.range 17).findSome? fun count =>
    (candidates rank (leadingPlace rank - (count + 1 : Nat))).find? (ofDecimal · == rank)
  let d := found.getD (exact rank)
  dropZeros (decimalDigits d.coefficient).length d

end RootFinder.Decimal
