import Clausal.Expression.Logic

/-!
# Arguments of known functions

A known function often has a simpler value where its argument shows a sign, is a
multiple of the imaginary unit, or holds parts of half a turn. At an approximate number
it has an approximate value. At all other arguments it stands for itself.
-/

namespace Clausal.Expression

/-- A known function applied to one argument without a simpler value. -/
def stands (function : String) (e : Expression) : Expression := .compound (.known function) [e]

/-- The product with minus one. -/
def negated (e : Expression) : Expression := product [.number (-1), e]

def root (e : Expression) : Expression := power e (.number (1 / 2))

def square (e : Expression) : Expression := power e (.number 2)

def inverse (e : Expression) : Expression := power e (.number (-1))

/-- The imaginary unit. -/
def unit : Expression := .constant .imaginary

def angle (q : Rat) : Expression := product [.number q, .constant .pi]

/-- What a term is a multiple of an expression by, if that is one of its factors and
stands nowhere else in it. -/
def coefficientIn? (part e : Expression) : Option Expression :=
  if e = part then some (.number 1)
  else
    match e with
    | .compound .product factors =>
        if factors.contains part then some (productFrom (factors.erase part)) else none
    | _ => none

/-- What an expression is a multiple of the imaginary unit by. -/
def unitCoefficient? (e : Expression) : Option Expression :=
  match e with
  | .compound .sum terms => (terms.mapM (coefficientIn? unit)).map sum
  | e => coefficientIn? unit e

/-- An approximate number as a rational number, if it has few binary places. -/
def exactBinary (e : Expression) : Expression :=
  match e with
  | .approximate x => .number x.value
  | e => e

/-- What an expression is a multiple of half a turn by. Full turns of a number are left
out. -/
def halfTurns? (e : Expression) : Option Expression :=
  if e.isZero then some (.number 0)
  else
    (coefficientIn? (.constant .pi) e).map fun coefficient =>
      let (c, rest) := coefficient.asMultiple
      let c := exactBinary c
      match c, rest with
      | .number c, .number _ => .number (c - 2 * (c / 2).floor)
      | c, rest => product [c, rest]

/-- The other terms of a sum and the quarters of a turn in it, in half turns. What is
left of the multiple of half a turn stays among the terms. -/
def peeled? (e : Expression) : Option (Expression × Rat) :=
  match e with
  | .compound .sum terms =>
      let coefficient (term : Expression) : Option Rat :=
        match coefficientIn? (.constant .pi) term with
        | some (.number q) => some q
        | _ => none
      let total := (terms.filterMap coefficient).foldl (· + ·) 0
      let quarters := (total * 2).floor / (2 : Rat)
      if quarters = 0 then none
      else
        let others := terms.filter fun term => (coefficient term).isNone
        some (sum (angle (total - quarters) :: others), quarters)
  | _ => none

/-- A function that gives away the sign of its argument. -/
def odd (f : Expression → Expression) (e : Expression) : Expression :=
  if e.isMinus then negated (f e.minus) else f e

/-- A function that does not depend on the sign of its argument. -/
def even (f : Expression → Expression) (e : Expression) : Expression :=
  if e.isMinus then f e.minus else f e

def argumentOf? (function : String) : Expression → Option Expression
  | .compound (.known f) [e] => if f = function then some e else none
  | _ => none

/-- An expression is one of the known functions at some argument. -/
def isFunctionOf (function : String) (e : Expression) : Bool := (argumentOf? function e).isSome

/-- The value of a function at an approximate number, if it is real. -/
def numeric? (function : String) : Expression → Option Expression
  | .approximate x => (Approximation.applied? function x).map .approximate
  | _ => none

/-- A function with a value at an approximate number, and at infinite and undefined
numbers that it does not know. -/
def numericOr (function : String) (f : Expression → Expression) (e : Expression) : Expression :=
  if e = .constant .undefined then e else (numeric? function e).getD (f e)

end Clausal.Expression
