/-! Sets of characters, given as closed intervals of code points in ascending order. -/
namespace RootFinder.Text

/-- Closed intervals of code points. -/
abbrev CharSet := List (Nat × Nat)

def CharSet.contains (set : CharSet) (c : Char) : Bool :=
  set.any fun interval => interval.1 ≤ c.toNat && c.toNat ≤ interval.2

theorem CharSet.contains_iff {set : CharSet} {c : Char} :
    set.contains c = true ↔ ∃ interval ∈ set, interval.1 ≤ c.toNat ∧ c.toNat ≤ interval.2 := by
  simp [CharSet.contains]

end RootFinder.Text
