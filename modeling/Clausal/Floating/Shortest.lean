import Clausal.Floating.Basic
import Clausal.Text.Decimal

/-!
# Floating-point numbers in decimal

A decimal number stands for the floating-point number nearest to it. A
floating-point number is written with the fewest digits that stand for it, and
of the numbers with so many digits the nearest is chosen.
-/

namespace Clausal.Floating

open Text (Decimal)

/-- Powers of ten from this exponent on are too large in any case, and those
below its negative round to zero. -/
def decimalLimit : Int := 400

/-- The floating-point number that a decimal number with a sign stands for. -/
def ofDecimal? (negative : Bool) (d : Decimal) : Option Floating :=
  if d.units = 0 ∨ d.point < -decimalLimit then ofMagnitude? negative 0
  else if decimalLimit < d.point then none
  else ofMagnitude? negative d.toRat

/-- The decimal number, with the sign of the floating-point number, stands for it. -/
def readsBack (x : Floating) (d : Decimal) : Bool :=
  ofDecimal? x.negative d = some x

/-- The least exponent of a power of ten that is greater than a positive number.
The lengths of numerator and denominator leave two candidates. -/
def decimalPoint (r : Rat) : Int :=
  let guess := ((Nat.toDigits 10 r.num.natAbs).length : Int) - (Nat.toDigits 10 r.den).length
  if r < 10 ^ guess then guess else guess + 1

/-- The two decimal numbers with a given number of digits next to a positive
number, the nearer one first. -/
def neighbours (r : Rat) (count : Nat) : List Decimal :=
  let exponent := decimalPoint r - count
  let scaled := r * 10 ^ (-exponent)
  let below := scaled.floor.toNat
  if nearestNat scaled = below then [⟨below, exponent⟩, ⟨below + 1, exponent⟩]
  else [⟨below + 1, exponent⟩, ⟨below, exponent⟩]

/-- The number of digits that always suffice. -/
def sufficientDigits : Nat := 17

def exactDecimal (x : Floating) : Decimal :=
  if 0 ≤ x.exponent then ⟨x.significand * Nat.pow 2 x.exponent.toNat, 0⟩
  else ⟨x.significand * Nat.pow 5 (-x.exponent).toNat, x.exponent⟩

/-- The nearest of the shortest decimal numbers that stand for a floating-point
number. -/
def shortest (x : Floating) : Decimal :=
  ((List.range' 1 sufficientDigits).findSome? fun count =>
    (neighbours x.magnitude count).find? x.readsBack).getD x.exactDecimal

/-- The text of a magnitude with the sign of a floating-point number. -/
def signed (x : Floating) (magnitude : String) : String :=
  if x.negative then "-" ++ magnitude else magnitude

/-- Numbers below ten to the sixteenth are written positionally, with a digit
after the point. -/
def shortestForm : Decimal.Form := ⟨-4, 16, 2, ".0", ""⟩

/-- A floating-point number with the fewest digits that stand for it. -/
def text (x : Floating) : String :=
  x.signed ((if x.significand = 0 then x.exactDecimal else x.shortest).text shortestForm)

end Clausal.Floating
