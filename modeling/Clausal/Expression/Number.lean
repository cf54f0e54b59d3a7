import Clausal.Expression.Magnitude
import Clausal.Expression.Text

/-!
# Calculating with numbers

Rational numbers are calculated with exactly, and approximate ones with as many bits
as the most precise of them has. What is calculated to be zero is exactly zero. An
infinite number stays itself when a finite one is added, and a calculation without a
meaning has an undefined result.
-/

namespace Clausal.Expression

def value : Expression → Rat
  | .number q => q
  | .approximate x => x.value
  | _ => 0

/-- A calculated number with so many bits. What is calculated to be zero is exactly
zero. -/
def calculated (bits : Nat) (q : Rat) : Expression :=
  if q = 0 then .number 0 else .approximate (.ofRat bits q)

/-- The value of a number with so many bits. -/
def rounded (bits : Nat) : Expression → Rat
  | .number q => Approximation.round bits q
  | e => e.value

/-- The number of bits of a number, of which exact numbers have none. -/
def bits : Expression → Nat
  | .approximate x => x.bits
  | _ => 0

/-- The result of a calculation with two numbers, which is exact for rational
numbers. -/
def calculate (f : Rat → Rat → Rat) : Expression → Expression → Expression
  | .number p, .number q => .number (f p q)
  | d, e =>
      let bits := max d.bits e.bits
      calculated bits (f (d.rounded bits) (e.rounded bits))

/-- A zero of any kind. -/
def isZero : Expression → Bool
  | .number q => q = 0
  | .approximate x => x.value = 0
  | _ => false

/-- An infinite or undefined number. -/
def isUnbounded : Expression → Bool
  | .constant .infinity => true
  | .constant .negativeInfinity => true
  | .constant .complexInfinity => true
  | .constant .undefined => true
  | _ => false

/-- A number, infinite ones with a sign and the undefined one included. -/
def isNumeral (e : Expression) : Bool :=
  e.isNumber || (e.isUnbounded && e ≠ .constant .complexInfinity)

/-- The sum of two numbers. -/
def addNumbers (d e : Expression) : Expression :=
  match d, e with
  | .constant .undefined, _ => .constant .undefined
  | _, .constant .undefined => .constant .undefined
  | .constant c, .constant c' => if c = c' then .constant c else .constant .undefined
  | .constant c, _ => .constant c
  | _, .constant c => .constant c
  | d, e => calculate (· + ·) d e

def infinite (negative : Bool) : Expression :=
  .constant (if negative then .negativeInfinity else .infinity)

/-- The product of two numbers. -/
def multiplyNumbers (d e : Expression) : Expression :=
  if d = .constant .undefined ∨ e = .constant .undefined then .constant .undefined
  else if d.isUnbounded || e.isUnbounded then
    if d.isZero || e.isZero then .constant .undefined
    else if d = .constant .complexInfinity ∨ e = .constant .complexInfinity then
      .constant .complexInfinity
    else infinite (d.isNegativeNumber != e.isNegativeNumber)
  else calculate (· * ·) d e

/-- The quotient of two numbers. An approximate divisor is inverted first. -/
def divideNumbers (d e : Expression) : Expression :=
  match d, e with
  | .approximate _, e => calculate (· / ·) d e
  | d, .approximate y => multiplyNumbers d (calculated y.bits (1 / y.value))
  | d, e => calculate (· / ·) d e

mutual

/-- Whether a quantity is a real or infinite number, if that is known. -/
def isReal? : Expression → Option Bool
  | .sym _ => none
  | .app _ _ => none
  | .leaf (.constant .infinity) => some true
  | .leaf (.constant .negativeInfinity) => some true
  | .leaf (.constant .complexInfinity) => some false
  | .leaf (.constant .imaginary) => some false
  | .leaf (.constant .undefined) => none
  | .leaf _ => some true
  | .compound (.known "exp") [e] => if isReal? e = some true then some true else none
  | .compound (.known function) parts =>
      if ["Abs", "re", "im", "arg"].contains function then some true
      else if ["floor", "ceiling", "sign"].contains function && areReal parts then some true
      else closed (.compound (.known function) parts)
  | .compound .sum parts =>
      if areReal parts then some true else closed (.compound .sum parts)
  | .compound .product parts =>
      if areReal parts then some true else closed (.compound .product parts)
  | .compound .power [base, exponent] =>
      if exponent.integer?.isSome && isReal? base = some true then some true
      else closed (.compound .power [base, exponent])
  | .compound _ _ => none
where
  closed (e : Expression) : Option Bool :=
    e.complexValue?.map fun z => z.2.abs < negligible

/-- All quantities of a list are known to be real or infinite numbers. -/
def areReal : List Expression → Bool
  | [] => true
  | e :: es => isReal? e = some true && areReal es

end

mutual

/-- Whether a quantity is a real number that is not negative, if that is known. -/
def isNonnegative? : Expression → Option Bool
  | .sym _ => none
  | .app _ _ => none
  | .leaf (.constant .infinity) => some true
  | .leaf (.constant .negativeInfinity) => some false
  | .leaf (.constant .complexInfinity) => some false
  | .leaf (.constant .undefined) => none
  | .leaf v => closed (.leaf v)
  | .compound (.known "Abs") _ => some true
  | .compound (.known "exp") [e] =>
      if isReal? e = some true then some true else closed (.compound (.known "exp") [e])
  | .compound .sum parts =>
      if areNonnegative parts then some true else closed (.compound .sum parts)
  | .compound .product parts =>
      if areNonnegative parts then some true else closed (.compound .product parts)
  | .compound .power [base, exponent] =>
      let even := exponent.integer?.any (· % 2 = 0)
      if isReal? exponent = some true &&
          (isNonnegative? base = some true || (even && isReal? base = some true)) then some true
      else closed (.compound .power [base, exponent])
  | .compound shape parts => closed (.compound shape parts)
where
  /-- Whether a closed quantity is a real number that is not negative. -/
  closed (e : Expression) : Option Bool :=
    e.complexValue?.map fun z => z.2.abs < negligible && 0 ≤ z.1

/-- All quantities of a list are known to be real numbers that are not negative. -/
def areNonnegative : List Expression → Bool
  | [] => true
  | e :: es => isNonnegative? e = some true && areNonnegative es

end

/-- Whether a quantity is a finite number greater than zero, if that is known. -/
def isPositive? (e : Expression) : Option Bool :=
  if e.isUnbounded then if e = .constant .undefined then none else some false
  else
    match e.isNonnegative?, e.magnitude? with
    | some true, some q => some (q ≠ 0)
    | some true, none =>
        match e with
        | .compound (.known "exp") _ => some true
        | _ => none
    | some false, _ => some false
    | none, _ => none

/-- A quantity is known to be less than zero. -/
def isSurelyNegative (e : Expression) : Bool :=
  e = .constant .negativeInfinity || e.magnitude?.any (· < 0)

end Clausal.Expression
