import Clausal.Expression.Applied
import Clausal.Expression.Fraction

/-!
# Simpler forms

Expressions are measured by the number of signs and functions they are written with. A
fraction in one symbol has a cancelled form, which is taken if it is not longer.
-/

namespace Clausal.Expression

/-- The number in front of an expression is negative. -/
def hasMinus (e : Expression) : Bool := (asMultiple e).1.isNegativeNumber

mutual

/-- The number of signs and functions that an expression is written with, where a minus
sign at its beginning counts. -/
def operations : Expression → Nat
  | .number q => (if q.num < 0 then 1 else 0) + (if q.den = 1 then 0 else 1)
  | .constant .euler => 1
  | .compound .sum terms =>
      let negatives := (terms.filter hasMinus).length
      termOperations terms + (terms.length - 1) +
        (if negatives = terms.length then 1 else 0)
  | .compound .product factors =>
      let (size, above, below) := factorOperations factors
      let negative := factors.head?.any isNegativeNumber
      size + (above - 1) + (below - 1) + (if below = 0 then 0 else 1) +
        (if negative then 1 else 0)
  | .compound .power [base, exponent] =>
      if exponent = .number (-1) then 1 + operations base
      else if base = .constant .euler then 1 + operations exponent
      else 1 + operations base + operations exponent
  | .compound .and parts => parts.length - 1 + operationsAll parts
  | .compound .or parts => parts.length - 1 + operationsAll parts
  | .compound _ parts => 1 + operationsAll parts
  | .app _ args => (if args.isEmpty then 0 else 1) + operationsAll args
  | _ => 0

def operationsAll : List Expression → Nat
  | [] => 0
  | e :: es => operations e + operationsAll es

/-- The numbers of signs and functions of terms, of which a minus sign belongs to the
sum. -/
def termOperations : List Expression → Nat
  | [] => 0
  | e :: es => operations e - (if hasMinus e then 1 else 0) + termOperations es

/-- The number of signs and functions in factors, and the numbers of factors above and
below the line. -/
def factorOperations : List Expression → Nat × Nat × Nat
  | [] => (0, 0, 0)
  | .number q :: es =>
      let (size, above, below) := factorOperations es
      (size, above + (if q.num.natAbs = 1 then 0 else 1), below + (if q.den = 1 then 0 else 1))
  | .compound .power [base, .leaf (.number q)] :: es =>
      let (size, above, below) := factorOperations es
      let here := operations base + (if q = 1 ∨ q = -1 then 0 else 1) +
        (if q.den = 1 then 0 else 1)
      if q < 0 then (size + here, above, below + 1) else (size + here, above + 1, below)
  | e :: es =>
      let (size, above, below) := factorOperations es
      (size + operations e, above + 1, below)

end

/-- The first of some expressions that is written with the fewest signs. -/
def shortest (e : Expression) (es : List Expression) : Expression :=
  es.foldl (fun best d => if operations d < operations best then d else best) e

/-- The squares of the sine and of the cosine of one angle. -/
def isUnitCircle : List Expression → Bool
  | [.compound .power [.compound (.known f) [d], p],
      .compound .power [.compound (.known g) [e], q]] =>
      d = e && p = .number 2 && q = .number 2 &&
        ((f = "sin" && g = "cos") || (f = "cos" && g = "sin"))
  | _ => false

/-- A simple form of an expression, if one is known. -/
def simplified? (e : Expression) : Option Expression :=
  match e with
  | .compound .sum terms =>
      if isUnitCircle terms then some (.number 1) else ofFraction e
  | .compound .product _ => ofFraction e
  | .compound .power _ => ofFraction e
  | .compound (.known function) [inner] =>
      if inner.isSymbol then some (.compound (.known function) [inner]) else none
  | .app name args =>
      if args.all isSymbol then some (.app name args) else none
  | .compound _ _ => none
  | e => some e
where
  ofFraction (e : Expression) : Option Expression :=
    (cancelled? e).map fun lowered => shortest lowered [e]

end Clausal.Expression
