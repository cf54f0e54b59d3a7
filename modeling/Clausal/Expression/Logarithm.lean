import Clausal.Expression.Argument

/-!
# Logarithms

The logarithm of a negative number has an imaginary part, and that of the inverse of a
number the other sign. To a base, the powers of the base are counted first.
-/

namespace Clausal.Expression

def imaginaryAngle (q : Rat) : Expression := product [.number q, unit, .constant .pi]

def numberLog (q : Rat) : Expression :=
  if q = 0 then .constant .complexInfinity
  else if q = 1 then .number 0
  else if q < 0 then
    if q = -1 then imaginaryAngle 1
    else if q.num = -1 then sum [negated (stands "log" (.int q.den)), imaginaryAngle 1]
    else sum [stands "log" (.number (-q)), imaginaryAngle 1]
  else if q.num = 1 then negated (stands "log" (.int q.den))
  else stands "log" (.number q)

def approximateLog (x : Approximation) : Expression :=
  if x.value = 0 then .constant .complexInfinity
  else
    let size := { x with value := x.value.abs }
    let real : Expression := if size.value = 1 then .number 0
      else (numeric? "log" (.approximate size)).getD (stands "log" (.approximate size))
    if x.value < 0 then sum [real, imaginaryAngle 1] else real

/-- The exponent of the exponential function as a real number and a multiple of half a
turn. -/
def exponentParts? (e : Expression) : Option (Expression × Expression) :=
  let terms := e.termsOf
  let imaginary := terms.filterMap (coefficientIn? unit)
  let real := terms.filter fun term => (coefficientIn? unit term).isNone
  if imaginary.isEmpty then none else some (sum real, sum imaginary)

/-- An angle without full turns, between minus and plus half a turn, if it is a part of
a turn. -/
def withoutTurns? (e : Expression) : Option Expression :=
  match halfTurns? e with
  | some (.number q) => some (angle (if 1 < q then q - 2 else q))
  | _ =>
      match e.magnitude? with
      | some y =>
          let turns := (y / (2 * Complex.pi) + 1 / 2).ceil - 1
          some (difference e (angle (2 * turns)))
      | none => none

def log (e : Expression) : Expression :=
  match e with
  | .number q => numberLog q
  | .approximate x => approximateLog x
  | .constant .euler => .number 1
  | .constant .infinity => e
  | .constant .negativeInfinity => .constant .infinity
  | .constant .complexInfinity => e
  | .constant .undefined => e
  | .constant .imaginary => imaginaryAngle (1 / 2)
  | .compound (.known "exp") [a] =>
      if a.isReal? = some true then a
      else
        match a.complexValue?, exponentParts? a with
        | some _, some (real, imaginary) =>
            match withoutTurns? imaginary with
            | some turned => sum [real, product [unit, turned]]
            | none => stands "log" e
        | _, _ => stands "log" e
  | e =>
      if e.isSurelyNegative then sum [stands "log" (negated e), imaginaryAngle 1]
      else
        match coefficientIn? unit e, complexParts? e with
        | some (.number q), _ =>
            sum [numberLog q.abs, imaginaryAngle (if q < 0 then -1 / 2 else 1 / 2)]
        | _, some (.number a, .number b) =>
            if a.abs = b.abs then
              let quarter : Rat := if 0 < a then 1 / 4 else 3 / 4
              sum [stands "log" (power (.number (a * a + b * b)) (.number (1 / 2))),
                imaginaryAngle (if b < 0 then -quarter else quarter)]
            else stands "log" e
        | _, _ => stands "log" e

/-- How often a number is a factor of another one, which is not zero. -/
def multiplicity (base n : Nat) : Nat := (strip base (n.log2 + 1) n).2

/-- How often a rational number is a factor of another one. -/
def rationalMultiplicity? (p n : Rat) : Option Int :=
  let above := p.num.toNat
  let below := p.den
  if p ≤ 0 ∨ n = 0 ∨ p = 1 then none
  else if below = 1 then
    some ((multiplicity above n.num.natAbs : Int) - multiplicity above n.den)
  else if above = 1 then some ((multiplicity below n.den : Int))
  else
    let like := min (multiplicity above n.num.natAbs) (multiplicity below n.den)
    let cross := min (multiplicity below n.num.natAbs) (multiplicity above n.den)
    some ((like : Int) - cross)

def logTo (e base : Expression) : Expression :=
  if base = .number 1 then
    .constant (if e = .number 1 then .undefined else .complexInfinity)
  else
    match e, base with
    | .number n, .number p =>
        match rationalMultiplicity? p n with
        | some count =>
            if count = 0 then quotient (log e) (log base)
            else sum [.int count, quotient (log (quotient e (power base (.int count)))) (log base)]
        | none => quotient (log e) (log base)
    | e, base => if base = .constant .euler then log e else quotient (log e) (log base)

end Clausal.Expression
