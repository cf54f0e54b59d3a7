import Clausal.Expression.Applied

/-!
# Approximate values

A closed quantity has an approximate value with a count of digits. In a quantity with
symbols the numbers are approximated where they stand, except for whole exponents and
for the arguments of functions.
-/

namespace Clausal.Expression

/-- The greatest count of digits of an approximate value. -/
def decimalLimit : Nat := 50

/-- A real number with so many bits, or a plain zero. -/
def decimalNumber (bits : Nat) (q : Rat) : Expression :=
  if q.abs < negligible then .number 0 else .approximate (.ofRat bits q)

def decimalClosed? (bits : Nat) (e : Expression) : Option Expression := do
  let z ← e.complexValue?
  let imaginary := decimalNumber bits z.2
  some (sum [decimalNumber bits z.1, product [imaginary, .constant .imaginary]])

mutual

def inDecimals (bits : Nat) : Expression → Expression
  | .number q => decimalNumber bits q
  | .approximate x => .approximate (.ofRat bits x.value)
  | .constant c => (decimalClosed? bits (.constant c)).getD (.constant c)
  | .compound shape parts =>
      let e := Expression.compound shape parts
      match (if e.isOpen then none else decimalClosed? bits e), shape, parts with
      | some value, _, _ => value
      | none, .sum, terms => sum (allInDecimals bits terms)
      | none, .product, factors => product (allInDecimals bits factors)
      | none, .power, [base, exponent] =>
          if exponent.integer?.isSome then power (inDecimals bits base) exponent
          else if base = .constant .euler then e
          else power (inDecimals bits base) (inDecimals bits exponent)
      | none, .comparison c, [d, e] => related c (inDecimals bits d) (inDecimals bits e)
      | none, .tuple, parts => .compound .tuple (allInDecimals bits parts)
      | none, _, _ => e
  | e => e

def allInDecimals (bits : Nat) : List Expression → List Expression
  | [] => []
  | e :: es => inDecimals bits e :: allInDecimals bits es

end

/-- A quantity with its numbers approximated with a count of digits. -/
def inDecimals? (digits : Nat) (e : Expression) : Option Expression :=
  if digits = 0 ∨ decimalLimit < digits then none
  else some (inDecimals (Approximation.bitsFor digits) e)

/-- The whole number nearest to a number, a half to the even one. -/
def nearestInt (q : Rat) : Int :=
  let n : Int := Floating.nearestNat q.abs
  if q < 0 then -n else n

/-- A number rounded to a place after the point, a half to the even digit. -/
def nearestAt (place : Int) (q : Rat) : Rat := nearestInt (q * 10 ^ place) / 10 ^ place

/-- A real number rounded to a place after the point. It is taken with its known
digits and one more, which only decides where the known ones end. Without a place the
result is a whole number. -/
def roundedReal (known? : Option Nat) (place? : Option Int) (q : Rat) : Expression :=
  let place := place?.getD 0
  let front := Floating.decimalPoint q.abs
  let digits := known?.getD (max Approximation.leastDigits (front + place).toNat)
  let shown : Nat :=
    match known? with
    | some known => min (front + place).toNat known
    | none => (front + place).toNat
  let shifted := Approximation.round (Approximation.bitsFor (digits + 1)) q * 10 ^ (digits - front)
  let known := nearestInt (Approximation.round (Approximation.bitsFor (digits + 1)) shifted)
  let result := nearestAt place (known / 10 ^ (digits - front))
  if result.den = 1 then
    if place?.isNone then .number result
    else .approximate (.ofRat (Approximation.bitsFor digits) result)
  else
    let shown := if shown = 0 ∧ q < result then 1 else shown
    .approximate (.ofRat (Approximation.bitsFor shown) result)

/-- The count of digits of the most exact approximate number in a quantity. -/
def knownDigits? (e : Expression) : Option Nat :=
  (e.tips.filterMap fun tip =>
    match tip with
    | .approximate x => some x.digits
    | _ => none).max?

/-- A closed real quantity rounded to a place after the point. -/
def roundedAt? (place? : Option Int) (e : Expression) : Option Expression :=
  match e with
  | .number q =>
      if q = 0 then some (.number 0)
      else if q.den = 1 then some (.number (nearestAt (place?.getD 0) q))
      else some (roundedReal none place? q)
  | .approximate x =>
      if x.value = 0 then some (.number 0)
      else some (roundedReal (some x.digits) place? x.value)
  | e => e.magnitude?.map (roundedReal e.knownDigits? place?)

end Clausal.Expression
