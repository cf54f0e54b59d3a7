import Clausal.Approximation.Basic
import Clausal.Phrase.Numeral

/-!
# Approximate numbers in digits

A number written with a point or an exponent has as many digits as are written, and a
whole number without a point as many as it has, but not less than every number has.
-/

namespace Clausal.Approximation

/-- Powers of ten beyond this one and its inverse are not calculated. -/
def pointLimit : Int := 20000

/-- A number in digits: its digits before and after the point, whether there is a point,
and its exponent. -/
structure Spelling where
  whole : List Char
  fraction : List Char
  isPointed : Bool
  exponent : Int

namespace Spelling

/-- A text as a number in digits, if it is one. -/
def ofText? (s : String) : Option Spelling :=
  let cs := s.toList
  let whole := Phrase.digitsFrom Char.isDigit cs
  let rest := cs.drop whole.length
  let isPointed := rest.head? = some '.'
  let fraction := if isPointed then Phrase.digitsFrom Char.isDigit (rest.drop 1) else []
  let rest := if isPointed then rest.drop (1 + fraction.length) else rest
  let (length, exponent) := Phrase.exponentPart rest
  if (whole.isEmpty && fraction.isEmpty) || length < rest.length then none
  else some ⟨Phrase.withoutLines whole, Phrase.withoutLines fraction, isPointed, exponent⟩

/-- The number in units of its last place. -/
def decimal (x : Spelling) : Text.Decimal :=
  ⟨Phrase.valueIn 10 (x.whole ++ x.fraction), x.exponent - x.fraction.length⟩

def digits (x : Spelling) (value : Rat) : Nat :=
  let written := (Nat.toDigits 10 x.decimal.units).length
  let long :=
    if !x.isPointed && value.den = 1 then (Nat.toDigits 10 value.num.natAbs).length else 0
  max leastDigits (max written long)

/-- The number that is spelled, unless its point is too far away. -/
def value? (x : Spelling) : Option Approximation :=
  if x.decimal.units ≠ 0 ∧ pointLimit < x.decimal.point.natAbs then none
  else
    let value := if x.decimal.units = 0 then 0 else x.decimal.toRat
    some (.ofRat (bitsFor (x.digits value)) value)

/-- The number is a whole number without a point and has too many digits to be written. -/
def isLong (x : Spelling) (limit : Nat) : Bool :=
  !x.isPointed && x.decimal.units ≠ 0 && 0 ≤ x.decimal.exponent && limit < x.decimal.point

end Spelling

end Clausal.Approximation
