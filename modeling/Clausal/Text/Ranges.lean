/-!
# Sets of characters as ranges of code points

Character classes that go beyond the first 128 code points are tables of closed
ranges. A class is a list of such ranges, and membership is decided by the code
point alone.
-/

namespace Clausal.Text

/-- A set of characters, given by closed ranges of code points. -/
abbrev Ranges := List (Nat × Nat)

/-- A character belongs to the set when its code point lies in some range. -/
def Ranges.contain (ranges : Ranges) (c : Char) : Bool :=
  ranges.any fun (first, last) => first ≤ c.toNat && c.toNat ≤ last

theorem Ranges.contain_iff {ranges : Ranges} {c : Char} :
    ranges.contain c = true ↔ ∃ range ∈ ranges, range.1 ≤ c.toNat ∧ c.toNat ≤ range.2 := by
  simp [Ranges.contain]

end Clausal.Text
