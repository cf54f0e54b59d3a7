/-!
# Integers as rows of bits

An integer is an endless row of bits, of which a negative one has only finitely
many zeros. Integers are combined bit by bit. Moving bits off the end is division
by a power of two, rounded down.
-/

namespace Clausal.Bits

/-- Every bit is changed. -/
def complement (m : Int) : Int := -m - 1

/-- The bits that are set in both integers. -/
def both : Int → Int → Int
  | .ofNat a, .ofNat b => .ofNat (Nat.land a b)
  | .ofNat a, .negSucc b => .ofNat (a - Nat.land a b)
  | .negSucc a, .ofNat b => .ofNat (b - Nat.land a b)
  | .negSucc a, .negSucc b => .negSucc (Nat.lor a b)

/-- The bits that are set in one integer at least. -/
def either (m n : Int) : Int := complement (both (complement m) (complement n))

/-- The row moved away from its end, with zeros filled in. -/
def shiftUp (m : Int) (count : Nat) : Int := m * (Nat.pow 2 count : Nat)

/-- The row moved towards its end, where bits fall off. Beyond its last
significant bit nothing changes any more. -/
def shiftDown (m : Int) (count : Nat) : Int :=
  m.fdiv (Nat.pow 2 (min count (m.natAbs.log2 + 1)) : Nat)

end Clausal.Bits
