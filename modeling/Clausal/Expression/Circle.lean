import Clausal.Expression.Hyperbola

/-!
# Functions of angles

The functions of angles have values made of roots at simple parts of half a turn. Full
and quarter turns are taken out of other angles, a multiple of the imaginary unit leads
to a function of the hyperbola, and a function undoes its inverse.
-/

namespace Clausal.Expression

/-- Parts of half a turn that are the difference of two simpler parts. -/
def differences : List (Nat × Nat × Nat) :=
  [(12, 3, 4), (20, 4, 5), (30, 5, 6), (15, 6, 10), (24, 6, 8), (40, 8, 10), (60, 20, 30),
    (120, 40, 60)]

/-- The greatest denominator of a part of half a turn whose cosine is a root. -/
def rootDenominator : Nat := 12

/-- The golden ratio halved, with roots. -/
def halfGolden : Expression :=
  sum [.number (1 / 4), product [.number (1 / 4), root (.number 5)]]

/-- The cosine of a part of half a turn. The fuel bounds the number of steps to simpler
parts. -/
def cosineWithin : (fuel : Nat) → Rat → Expression
  | 0, c => stands "cos" (angle c)
  | fuel + 1, c =>
      let p : Nat := (c.num % (2 * c.den)).toNat
      let q := c.den
      if q = 1 then .number (if p = 0 then 1 else -1)
      else if q = 2 then .number 0
      else if q < p then negated (cosineWithin fuel (c - 1))
      else if q < 2 * p then negated (cosineWithin fuel (1 - c))
      else
        match differences.find? fun d => d.1 = q with
        | some (_, a, b) =>
            let first : Rat := (p : Rat) / a
            let second : Rat := (p : Rat) / b
            sum [product [cosineWithin fuel first, cosineWithin fuel second],
              product [cosineWithin fuel (1 / 2 - first), cosineWithin fuel (1 / 2 - second)]]
        | none =>
            if rootDenominator < q then stands "cos" (angle c)
            else if q = 3 then .number (1 / 2)
            else if q = 5 then
              if p = 1 then halfGolden else sum [halfGolden, .number (-1 / 2)]
            else if q % 2 = 0 then
              root (product [.number (1 / 2), sum [.number 1, cosineWithin fuel (2 * c)]])
            else stands "cos" (angle c)

def cosineFuel : Nat := 16

/-- The cosine of a part of half a turn, of which full turns are left out. -/
def cosineOf (c : Rat) : Expression := cosineWithin cosineFuel (c - 2 * (c / 2).floor)

def sineOf (c : Rat) : Expression :=
  let x := c - 2 * (c / 2).floor
  if 1 < x then negated (inHalf (x - 1)) else inHalf x
where
  /-- The sine of a part of half a turn that is not greater than that. -/
  inHalf (x : Rat) : Expression :=
    let x := if 1 / 2 < x then 1 - x else x
    if x = 0 then .number 0
    else
      let value := cosineOf (x + 3 / 2)
      if isFunctionOf "cos" value then stands "sin" (angle x) else value

/-- The value of the sine where it undoes an inverse function. -/
def sineUndone? : Expression → Option Expression
  | .compound (.known "asin") [x] => some x
  | .compound (.known "atan") [x] => some (quotient x (root (sum [.number 1, square x])))
  | .compound (.known "acos") [x] => some (root (difference (.number 1) (square x)))
  | .compound (.known "acot") [x] =>
      some (inverse (product [root (sum [.number 1, power x (.number (-2))]), x]))
  | .compound (.known "acsc") [x] => some (inverse x)
  | .compound (.known "asec") [x] =>
      some (root (difference (.number 1) (power x (.number (-2)))))
  | _ => none

/-- The value of the cosine where it undoes an inverse function. -/
def cosineUndone? : Expression → Option Expression
  | .compound (.known "acos") [x] => some x
  | .compound (.known "atan") [x] => some (inverse (root (sum [.number 1, square x])))
  | .compound (.known "asin") [x] => some (root (difference (.number 1) (square x)))
  | .compound (.known "acot") [x] =>
      some (inverse (root (sum [.number 1, power x (.number (-2))])))
  | .compound (.known "asec") [x] => some (inverse x)
  | .compound (.known "acsc") [x] =>
      some (root (difference (.number 1) (power x (.number (-2)))))
  | _ => none

/-- The sine of an expression without a sign. -/
def plainSine (e : Expression) : Expression :=
  match unitCoefficient? e, halfTurns? e, sineUndone? e with
  | some y, _, _ => product [unit, hyperbolicSine (stands "sin") y]
  | none, some (.number q), _ => sineOf q
  | none, _, some value => value
  | none, _, none => stands "sin" e

/-- The cosine of an expression without a sign. -/
def plainCosine (e : Expression) : Expression :=
  match unitCoefficient? e, halfTurns? e, cosineUndone? e with
  | some y, _, _ => hyperbolicCosine (stands "cos") y
  | none, some (.number q), _ => cosineOf q
  | none, _, some value => value
  | none, _, none => stands "cos" e

/-- The sine of an expression. A quarter turn leads to the cosine. -/
def sine (e : Expression) : Expression :=
  numericOr "sin" (odd fun e =>
    match peeled? e with
    | some (x, m) => sum [product [sineOf m, even plainCosine x],
        product [cosineOf m, odd plainSine x]]
    | none => plainSine e) e

/-- The cosine of an expression. A quarter turn leads to the sine. -/
def cosine (e : Expression) : Expression :=
  numericOr "cos" (even fun e =>
    match peeled? e with
    | some (x, m) => sum [product [cosineOf m, even plainCosine x],
        negated (product [sineOf m, odd plainSine x])]
    | none => plainCosine e) e

/-- The tangent of a tenth part of half a turn with roots, for the first four. -/
def tenthTangent (n : Nat) : Expression :=
  let five := root (.number 5)
  match n with
  | 1 => root (sum [.number 1, product [.number (-2 / 5), five]])
  | 2 => root (sum [.number 5, product [.number (-2), five]])
  | 3 => root (sum [.number 1, product [.number (2 / 5), five]])
  | _ => root (sum [.number 5, product [.number 2, five]])

def tangentOf (c : Rat) : Expression :=
  let p : Nat := (c.num % c.den).toNat
  let q := c.den
  let isPlain (e : Expression) : Bool := !isFunctionOf "cos" e
  let double := (cosineOf (2 * c), cosineOf (2 * c - 1 / 2))
  let near := c + 1 / 2 - (c + 1 / 2).floor - 1 / 2
  let single := (cosineOf near, cosineOf (near - 1 / 2))
  if q = 1 then .number 0
  else if q = 5 ∨ q = 10 then
    let n := 10 * p / q
    if 5 < n then negated (tenthTangent (10 - n)) else tenthTangent n
  else if q % 2 = 0 && isPlain double.1 && isPlain double.2 then
    if double.2 = .number 0 then .constant .complexInfinity
    else difference (inverse double.2) (quotient double.1 double.2)
  else if isPlain single.1 && isPlain single.2 then
    if single.1 = .number 0 then .constant .complexInfinity else quotient single.2 single.1
  else odd (stands "tan") (angle near)

def cotangentOf (c : Rat) : Expression :=
  let q := c.den
  let isPlain (e : Expression) : Bool := !isFunctionOf "cos" e
  let double := (cosineOf (2 * c), cosineOf (2 * c - 1 / 2))
  let near := c + 1 / 2 - (c + 1 / 2).floor - 1 / 2
  let single := (cosineOf near, cosineOf (near - 1 / 2))
  if q = 1 then .constant .complexInfinity
  else if q = 2 then .number 0
  else if q = 5 ∨ q = 10 then tangentOf (1 / 2 - c)
  else if q % 2 = 0 && isPlain double.1 && isPlain double.2 then
    sum [inverse double.2, quotient double.1 double.2]
  else if isPlain single.1 && isPlain single.2 then quotient single.1 single.2
  else odd (stands "cot") (angle near)

/-- The value of the tangent where it undoes an inverse function. -/
def tangentUndone? : Expression → Option Expression
  | .compound (.known "atan") [x] => some x
  | .compound (.known "asin") [x] => some (quotient x (root (difference (.number 1) (square x))))
  | .compound (.known "acos") [x] => some (quotient (root (difference (.number 1) (square x))) x)
  | .compound (.known "acot") [x] => some (inverse x)
  | _ => none

/-- The value of the cotangent where it undoes an inverse function. -/
def cotangentUndone? : Expression → Option Expression
  | .compound (.known "acot") [x] => some x
  | .compound (.known "atan") [x] => some (inverse x)
  | .compound (.known "asin") [x] => some (quotient (root (difference (.number 1) (square x))) x)
  | .compound (.known "acos") [x] => some (quotient x (root (difference (.number 1) (square x))))
  | _ => none

/-- The tangent of an expression. A quarter turn leads to the cotangent. -/
def tangent (e : Expression) : Expression :=
  numericOr "tan" (odd fun e =>
    let plain (e : Expression) : Expression :=
      match unitCoefficient? e, halfTurns? e, tangentUndone? e with
      | some y, _, _ => product [unit, hyperbolicTangent (stands "tan") y]
      | none, some (.number q), _ => tangentOf q
      | none, _, some value => value
      | none, _, none => stands "tan" e
    match peeled? e with
    | some (x, m) => if m.den = 1 then odd plain x else negated (odd (stands "cot") x)
    | none => plain e) e

/-- The cotangent of an expression. A quarter turn leads to the tangent. -/
def cotangent (e : Expression) : Expression :=
  numericOr "cot" (odd fun e =>
    let plain (e : Expression) : Expression :=
      match unitCoefficient? e, halfTurns? e, cotangentUndone? e with
      | some y, _, _ => product [.number (-1), unit, hyperbolicCotangent (stands "cot") y]
      | none, some (.number q), _ => cotangentOf q
      | none, _, some value => value
      | none, _, none => if e.isZero then .constant .complexInfinity else stands "cot" e
    match peeled? e with
    | some (x, m) => if m.den = 1 then odd plain x else negated (odd (stands "tan") x)
    | none => plain e) e

/-- The inverse of the sine or the cosine, which have names of their own. -/
def secantLike (inverseName function : String) (f : Expression → Expression) (e : Expression) :
    Expression :=
  match argumentOf? inverseName e with
  | some x => x
  | none =>
      let named (e : Expression) : Expression :=
        match e with
        | .compound (.known "cos") [a] => stands "sec" a
        | .compound (.known "sin") [a] => stands "csc" a
        | e => inverse e
      match f e with
      | .compound .product [.leaf (.number c), value] =>
          if c = -1 then negated (named value)
          else inverse (.compound .product [.leaf (.number c), value])
      | value => numericOr function (fun _ => named value) e

def secant (e : Expression) : Expression := secantLike "asec" "sec" cosine e

def cosecant (e : Expression) : Expression := secantLike "acsc" "csc" sine e

def surd (radicand : Nat) (divisor : Rat) : Expression :=
  product [.number (1 / divisor), root (.number radicand)]

def sineTable : List (Expression × Rat) :=
  [(surd 3 2, 1 / 3), (surd 2 2, 1 / 4), (.number (1 / 2), 1 / 6),
    (sineOf (1 / 5), 1 / 5), (sineOf (2 / 5), 2 / 5), (sineOf (1 / 8), 1 / 8),
    (sineOf (3 / 8), 3 / 8), (sineOf (1 / 10), 1 / 10), ((sineOf (1 / 10)).minus, -1 / 10),
    (sineOf (3 / 10), 3 / 10), (sineOf (1 / 12), 1 / 12), ((sineOf (1 / 12)).minus, -1 / 12),
    (sineOf (5 / 12), 5 / 12), (.number 1, 1 / 2)]

def tangentTable : List (Expression × Rat) :=
  [(surd 3 3, 1 / 6), (root (.number 3), 1 / 3), (tangentOf (1 / 8), 1 / 8),
    ((tangentOf (1 / 8)).minus, -1 / 8), (tangentOf (3 / 8), 3 / 8),
    (tangentOf (1 / 5), 1 / 5), (tangentOf (2 / 5), 2 / 5), (tangentOf (1 / 10), 1 / 10),
    (tangentOf (3 / 10), 3 / 10), (tangentOf (1 / 12), 1 / 12),
    ((tangentOf (1 / 12)).minus, -1 / 12), (tangentOf (5 / 12), 5 / 12), (.number 1, 1 / 4)]

def arcSine (e : Expression) : Expression :=
  numericOr "asin" (odd fun e =>
    match e with
    | .constant .infinity => product [.constant .negativeInfinity, unit]
    | .constant .complexInfinity => e
    | e =>
        if e.isZero then .number 0
        else
          match sineTable.lookup e, unitCoefficient? e with
          | some q, _ => angle q
          | none, some y => product [unit, areaSine y]
          | none, none => stands "asin" e) e

def arcCosine (e : Expression) : Expression :=
  numericOr "acos" (fun e =>
    match e with
    | .constant .infinity => product [.constant .infinity, unit]
    | .constant .negativeInfinity => product [.constant .negativeInfinity, unit]
    | .constant .complexInfinity => e
    | e =>
        if e.isZero then angle (1 / 2)
        else
          match sineTable.lookup e, sineTable.lookup (negated e), unitCoefficient? e with
          | some q, _, _ => angle (1 / 2 - q)
          | none, some q, _ => angle (1 / 2 + q)
          | none, none, some _ => difference (angle (1 / 2)) (arcSine e)
          | none, none, none => stands "acos" e) e

def arcTangent (e : Expression) : Expression :=
  numericOr "atan" (odd fun e =>
    match e with
    | .constant .infinity => angle (1 / 2)
    | e =>
        if e.isZero then .number 0
        else
          match tangentTable.lookup e, unitCoefficient? e with
          | some q, _ => angle q
          | none, some y => product [unit, areaTangent y]
          | none, none => stands "atan" e) e

def arcCotangent (e : Expression) : Expression :=
  numericOr "acot" (fun e =>
    if e.isZero then angle (1 / 2)
    else if e.isUnbounded then .number 0
    else
      odd (fun e =>
        match tangentTable.lookup e, unitCoefficient? e with
        | some q, _ => angle (if q < 0 then -1 / 2 - q else 1 / 2 - q)
        | none, some y => product [.number (-1), unit, areaCotangent y]
        | none, none => stands "acot" e) e) e

def arcSecant (e : Expression) : Expression :=
  if e.isZero then .constant .complexInfinity
  else if e.isUnbounded then if e = .constant .undefined then e else angle (1 / 2)
  else
    match sineTable.lookup (inverse e), sineTable.lookup (negated (inverse e)) with
    | some q, _ => angle (1 / 2 - q)
    | none, some q => angle (1 / 2 + q)
    | none, none => stands "asec" e

def arcCosecant (e : Expression) : Expression :=
  if e.isZero then .constant .complexInfinity
  else if e.isUnbounded then if e = .constant .undefined then e else .number 0
  else
    odd (fun e =>
      match sineTable.lookup (inverse e) with
      | some q => angle q
      | none => stands "acsc" e) e

def cardinalSine (e : Expression) : Expression :=
  numericOr "sinc" (even fun e =>
    if e.isZero then .number 1
    else if e.isUnbounded then .number 0
    else
      match halfTurns? e with
      | some (.number q) =>
          if q.den = 1 then .number 0
          else if q.den = 2 then quotient (.number (if q.floor % 2 = 0 then 1 else -1)) e
          else stands "sinc" e
      | _ => stands "sinc" e) e

end Clausal.Expression
