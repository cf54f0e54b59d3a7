/-!
# Decimal numbers

A decimal number is a whole number of units, each a power of ten. It is written
positionally while its point stays near its digits and with an exponent
otherwise. A form says how near the point has to be, and what is written where
no digits are left after it.
-/

namespace Clausal.Text

/-- The number `units * 10 ^ exponent`. -/
structure Decimal where
  units : Nat
  exponent : Int
  deriving DecidableEq

/-- How decimal numbers are written. -/
structure Decimal.Form where
  /-- The positional form is used for points after this place. -/
  start : Int
  /-- The positional form is used for points at most so many places after the
  start of the digits. -/
  reach : Int
  exponentWidth : Nat
  /-- What ends the positional form of a whole number. -/
  wholeEnd : String
  /-- What ends a single digit before an exponent. -/
  digitEnd : String

namespace Decimal

/-- The value of a decimal number. -/
def toRat (d : Decimal) : Rat := d.units * 10 ^ d.exponent

/-- The digits of a natural number without the zeros at its end. -/
def significant (n : Nat) : List Char :=
  ((Nat.toDigits 10 n).reverse.dropWhile (· == '0')).reverse

/-- The places of the point after the start of the digits. -/
def point (d : Decimal) : Int := (Nat.toDigits 10 d.units).length + d.exponent

/-- An exponent with its sign and at least `width` digits. -/
def exponentText (width : Nat) (e : Int) : String :=
  let digits := Nat.toDigits 10 e.natAbs
  (if e < 0 then "-" else "+") ++
    String.ofList (List.replicate (width - digits.length) '0' ++ digits)

/-- The digits of a positive number whose point stands `point` places after
the first of them. -/
def layout (form : Form) (digits : List Char) (point : Int) : String :=
  if form.start < point ∧ point ≤ form.reach then
    if point ≤ 0 then
      "0." ++ String.ofList (List.replicate point.natAbs '0' ++ digits)
    else
      let whole := digits.take point.natAbs
      let fraction := digits.drop point.natAbs
      String.ofList (whole ++ List.replicate (point.natAbs - whole.length) '0') ++
        (if fraction.isEmpty then form.wholeEnd else "." ++ String.ofList fraction)
  else
    let fraction := digits.drop 1
    String.ofList (digits.take 1) ++
      (if fraction.isEmpty then form.digitEnd else "." ++ String.ofList fraction) ++
      "e" ++ exponentText form.exponentWidth (point - 1)

/-- Zero in every form. -/
def zeroText : String := "0.0"

/-- A decimal number with its significant digits. -/
def text (form : Form) (d : Decimal) : String :=
  if d.units = 0 then zeroText else layout form (significant d.units) d.point

/-- A decimal number with exactly `count` digits, if it has no more significant
ones. -/
def padded (form : Form) (count : Nat) (d : Decimal) : String :=
  if d.units = 0 then zeroText
  else
    let digits := significant d.units
    layout form (digits ++ List.replicate (count - digits.length) '0') d.point

end Decimal

end Clausal.Text
