/-!
# Floating-point numbers

A floating-point number is a binary fraction with at most 53 significant bits
and an exponent between two limits. Every rational number is rounded to the
nearest of them, a half to the one with the even significand; a number that is
too large has none. Zero has two signs, which only a text tells apart.
-/

namespace Clausal

/-- The number `significand * 2 ^ exponent` with its sign. -/
structure Floating where
  negative : Bool
  significand : Nat
  exponent : Int
  deriving DecidableEq

namespace Floating

/-- The greatest number of significant bits. -/
def precision : Nat := 53

/-- The least natural number that has too many bits for a significand. -/
def significandLimit : Nat := Nat.pow 2 precision

/-- The least exponent of a significand. -/
def leastExponent : Int := -1074

/-- The greatest exponent of a significand. -/
def greatestExponent : Int := 971

def zero : Floating := ⟨false, 0, leastExponent⟩

/-- The value without its sign. -/
def magnitude (x : Floating) : Rat := x.significand * 2 ^ x.exponent

def toRat (x : Floating) : Rat := if x.negative then -x.magnitude else x.magnitude

/-- The natural number nearest to a nonnegative number, a half to the even one. -/
def nearestNat (r : Rat) : Nat :=
  let below := r.floor.toNat
  let rest := r - below
  if rest < 1 / 2 then below else if rest = 1 / 2 then below + below % 2 else below + 1

/-- The greatest exponent of a power of two that is at most a positive number.
The lengths of numerator and denominator leave two candidates. -/
def binaryLog (r : Rat) : Int :=
  let guess := (r.num.natAbs.log2 : Int) - r.den.log2
  if 2 ^ guess ≤ r then guess else guess - 1

/-- The exponent at which a positive number has as many significant bits as
there may be. -/
def exponentOf (r : Rat) : Int := max leastExponent (binaryLog r + 1 - precision)

/-- A positive number rounded. Rounding up may need one bit more, which is a
zero at the end. -/
def ofPositive? (negative : Bool) (r : Rat) : Option Floating :=
  let exponent := exponentOf r
  let significand := nearestNat (r * 2 ^ (-exponent))
  let x : Floating :=
    if significand = significandLimit then ⟨negative, significand / 2, exponent + 1⟩
    else ⟨negative, significand, exponent⟩
  if x.exponent ≤ greatestExponent then some x else none

/-- A nonnegative number with a sign, rounded to the nearest floating-point
number. -/
def ofMagnitude? (negative : Bool) (r : Rat) : Option Floating :=
  if r = 0 then some ⟨negative, 0, leastExponent⟩ else ofPositive? negative r

/-- The floating-point number nearest to a number, unless that is too large. -/
def ofRat? (r : Rat) : Option Floating := ofMagnitude? (r < 0) r.abs

end Floating

end Clausal
