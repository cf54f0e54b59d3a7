import Clausal.Floating.Shortest

/-!
# Approximate numbers

An approximate number has a number of significant bits and is the result of
rounding to them, a half to the even significand. Its exponent has no limits. A
calculation has as many bits as the most precise of its operands.

The number of bits goes with a number of decimal digits that are always reliable,
and a number is written with these.
-/

namespace Clausal

/-- A number that is known up to a number of significant bits. -/
structure Approximation where
  bits : Nat
  value : Rat
  deriving DecidableEq

namespace Approximation

/-- A positive number with so many significant bits. -/
def roundPositive (bits : Nat) (r : Rat) : Rat :=
  let exponent := Floating.binaryLog r + 1 - bits
  Floating.nearestNat (r * 2 ^ (-exponent)) * 2 ^ exponent

/-- A number with so many significant bits. -/
def round (bits : Nat) (r : Rat) : Rat :=
  if r = 0 then 0 else if r < 0 then -(roundPositive bits (-r)) else roundPositive bits r

def ofRat (bits : Nat) (r : Rat) : Approximation := ⟨bits, round bits r⟩

def ofFloating (x : Floating) : Approximation := ⟨Floating.precision, x.toRat⟩

/-- The number with the other sign. -/
def opposite (x : Approximation) : Approximation := { x with value := -x.value }

def bitsPerDigit : Rat := 33219280948873626 / 10000000000000000

/-- The number of digits that numbers with so many bits have. -/
def digitsFor (bits : Nat) : Nat :=
  max 1 (Floating.nearestNat ((bits : Rat) / bitsPerDigit) - 1)

/-- The number of bits that numbers with so many digits have. -/
def bitsFor (digits : Nat) : Nat := max 1 (Floating.nearestNat ((digits + 1 : Nat) * bitsPerDigit))

def digits (x : Approximation) : Nat := digitsFor x.bits

/-- The number of digits that every number has at least, unless it is made with
fewer. -/
def leastDigits : Nat := 15

/-- The numbers of bits and of digits agree for a floating-point number. -/
example : bitsFor leastDigits = Floating.precision ∧
    digitsFor Floating.precision = leastDigits := by decide +kernel

/-- The natural number nearest to a nonnegative number, a half rounded up. -/
def halfUpNat (r : Rat) : Nat := (r + 1 / 2).floor.toNat

/-- The value of an approximate number without its sign, rounded to its digits, a
half away from zero. -/
def rounded (x : Approximation) : Text.Decimal :=
  if x.value = 0 then ⟨0, 0⟩
  else
    let exponent := Floating.decimalPoint x.value.abs - x.digits
    ⟨halfUpNat (x.value.abs * 10 ^ (-exponent)), exponent⟩

/-- The form of numbers with so many digits. They are positional while all digits
reach past the point, and up to a third of them after it. -/
def form (digits : Nat) (wholeEnd digitEnd : String) : Text.Decimal.Form :=
  ⟨min (-((digits / 3 : Nat) : Int)) (-5) + 1, digits, 1, wholeEnd, digitEnd⟩

/-- The text of a magnitude with the sign of an approximate number. -/
def signed (x : Approximation) (magnitude : String) : String :=
  if x.value < 0 then "-" ++ magnitude else magnitude

/-- An approximate number with all its digits, and nothing after the point if there
are none left for it. -/
def paddedText (x : Approximation) : String :=
  x.signed (x.rounded.padded (form x.digits "." ".") x.digits)

/-- An approximate number with its digits up to the last that is not zero. A point
is always followed by a digit. -/
def strippedText (x : Approximation) : String := x.signed (x.rounded.text (form x.digits ".0" ".0"))

end Approximation

end Clausal
