import Clausal.Expression.Argument

/-!
# Functions of the hyperbola

A multiple of the imaginary unit leads to a function of angles, and a function undoes
its inverse.
-/

namespace Clausal.Expression

/-- The product of the roots of a number minus one and plus one. -/
def rootProduct (x : Expression) : Expression :=
  product [root (sum [x, .number (-1)]), root (sum [x, .number 1])]

/-- The root of one plus the square. -/
def rootAbove (x : Expression) : Expression := root (sum [.number 1, square x])

/-- The root of one minus the square. -/
def rootBelow (x : Expression) : Expression := root (difference (.number 1) (square x))

/-- The hyperbolic sine, where `circular` is the sine. -/
def hyperbolicSine (circular : Expression → Expression) (e : Expression) : Expression :=
  numericOr "sinh" (odd fun e =>
    if e.isZero then .number 0
    else
      match e, unitCoefficient? e with
      | .constant .infinity, _ => e
      | .constant .complexInfinity, _ => .constant .undefined
      | _, some y => product [unit, circular y]
      | .compound (.known "asinh") [x], _ => x
      | .compound (.known "acosh") [x], _ => rootProduct x
      | .compound (.known "atanh") [x], _ => quotient x (rootBelow x)
      | .compound (.known "acoth") [x], _ => inverse (rootProduct x)
      | e, none => stands "sinh" e) e

/-- The hyperbolic cosine, where `circular` is the cosine. -/
def hyperbolicCosine (circular : Expression → Expression) (e : Expression) : Expression :=
  numericOr "cosh" (even fun e =>
    if e.isZero then .number 1
    else
      match e, unitCoefficient? e with
      | .constant .infinity, _ => e
      | .constant .complexInfinity, _ => .constant .undefined
      | _, some y => circular y
      | .compound (.known "asinh") [x], _ => rootAbove x
      | .compound (.known "acosh") [x], _ => x
      | .compound (.known "atanh") [x], _ => inverse (rootBelow x)
      | .compound (.known "acoth") [x], _ => quotient x (rootProduct x)
      | e, none => stands "cosh" e) e

/-- The hyperbolic tangent, where `circular` is the tangent. -/
def hyperbolicTangent (circular : Expression → Expression) (e : Expression) : Expression :=
  numericOr "tanh" (odd fun e =>
    if e.isZero then .number 0
    else
      match e, unitCoefficient? e with
      | .constant .infinity, _ => .number 1
      | .constant .complexInfinity, _ => .constant .undefined
      | _, some y => product [unit, circular y]
      | .compound (.known "asinh") [x], _ => quotient x (rootAbove x)
      | .compound (.known "acosh") [x], _ => quotient (rootProduct x) x
      | .compound (.known "atanh") [x], _ => x
      | .compound (.known "acoth") [x], _ => inverse x
      | e, none => stands "tanh" e) e

/-- The hyperbolic cotangent, where `circular` is the cotangent. -/
def hyperbolicCotangent (circular : Expression → Expression) (e : Expression) : Expression :=
  numericOr "coth" (odd fun e =>
    if e.isZero then .constant .complexInfinity
    else
      match e, unitCoefficient? e with
      | .constant .infinity, _ => .number 1
      | .constant .complexInfinity, _ => .constant .undefined
      | _, some y => product [.number (-1), unit, circular y]
      | .compound (.known "asinh") [x], _ => quotient (rootAbove x) x
      | .compound (.known "acosh") [x], _ => quotient x (rootProduct x)
      | .compound (.known "atanh") [x], _ => inverse x
      | .compound (.known "acoth") [x], _ => x
      | e, none => stands "coth" e) e

/-- The hyperbolic secant and cosecant: inverses of other functions where these have a
simpler value. -/
def hyperbolicInverse (name inner inverseName : String) (f : Expression → Expression)
    (e : Expression) : Expression :=
  match argumentOf? inverseName e with
  | some x => x
  | none =>
      let value := f e
      match value with
      | .compound (.known g) [x] => if g = inner then stands name x else inverse value
      | value => numericOr name (fun _ => inverse value) e

def areaSine (e : Expression) : Expression :=
  numericOr "asinh" (fun e =>
    match e with
    | .number q =>
        if q = 0 then e
        else if q = 1 then stands "log" (sum [root (.number 2), .number 1])
        else if q = -1 then stands "log" (sum [root (.number 2), .number (-1)])
        else if q < 0 then negated (stands "asinh" (.number (-q)))
        else stands "asinh" e
    | e =>
        if e.isUnbounded || e.isZero then e
        else
          match unitCoefficient? e with
          | some y => product [unit, stands "asin" y]
          | none => odd (stands "asinh") e) e

def areaCosine (e : Expression) : Expression :=
  numericOr "acosh" (fun e =>
    match e with
    | .number q =>
        if q = 0 then product [.number (1 / 2), unit, .constant .pi]
        else if q = 1 then .number 0
        else if q = -1 then product [unit, .constant .pi]
        else if q = 1 / 2 then product [.number (1 / 3), unit, .constant .pi]
        else if q = -1 / 2 then product [.number (2 / 3), unit, .constant .pi]
        else stands "acosh" e
    | .constant .negativeInfinity => .constant .infinity
    | e => if e.isUnbounded then e else stands "acosh" e) e

def areaTangent (e : Expression) : Expression :=
  numericOr "atanh" (odd fun e =>
    match e, unitCoefficient? e with
    | .number q, _ =>
        if q = 0 then e else if q = 1 then .constant .infinity else stands "atanh" e
    | .constant .infinity, _ => product [.number (-1 / 2), unit, .constant .pi]
    | _, some y => product [unit, stands "atan" y]
    | e, none => stands "atanh" e) e

def areaCotangent (e : Expression) : Expression :=
  if e.isUnbounded then if e = .constant .undefined then e else .number 0
  else
    odd (fun e =>
      match e, unitCoefficient? e with
      | .number q, _ =>
          if q = 0 then product [.number (1 / 2), unit, .constant .pi]
          else if q = 1 then .constant .infinity
          else stands "acoth" e
      | _, some y => product [.number (-1), unit, stands "acot" y]
      | e, none => stands "acoth" e) e

end Clausal.Expression
