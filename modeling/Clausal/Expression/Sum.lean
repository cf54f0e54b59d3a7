import Clausal.Expression.Number

/-!
# Sums

A sum has no sum among its terms, at most one number, and no two terms that are
multiples of the same expression. An infinite number takes up the real numbers that
are added to it.
-/

namespace Clausal.Expression

/-- Factors as one expression. -/
def productFrom : List Expression → Expression
  | [] => .number 1
  | [e] => e
  | factors => .compound .product factors

def splitMultiple : Expression → Expression × Expression
  | .compound .product (c :: rest) =>
      if c.isNumeral then (c, productFrom rest) else (.number 1, .compound .product (c :: rest))
  | e => (.number 1, e)

/-- A number and the rest of an expression, where a number is a multiple of one. -/
def asMultiple (e : Expression) : Expression × Expression :=
  if e.isNumeral then (e, .number 1) else e.splitMultiple

/-- A multiple of an expression that is no number. -/
def multiple (c e : Expression) : Expression :=
  if c = .number 1 then e
  else
    match e with
    | .compound .product parts => .compound .product (c :: parts)
    | e => .compound .product [c, e]

/-- A term with the other sign. -/
def opposedTerm (e : Expression) : Expression :=
  let (c, rest) := e.asMultiple
  if e.isNumeral then multiplyNumbers (.number (-1)) e
  else multiple (multiplyNumbers (.number (-1)) c) rest

/-- The terms of a sum, or the expression itself. -/
def termsOf : Expression → List Expression
  | .compound .sum terms => terms
  | e => [e]

/-- Terms in the order of keeping, with the number first. -/
def storedTerms (terms : List Expression) : List Expression :=
  let isFirst (e : Expression) : Bool := e.isNumeral || e = .constant .complexInfinity
  terms.filter isFirst ++ stored (terms.filter fun e => !isFirst e)

/-- An expression with the other sign, as it is made by a minus sign. -/
def minus (e : Expression) : Expression :=
  match e with
  | .approximate x => .approximate x.opposite
  | .constant .complexInfinity => e
  | .compound .sum terms => .compound .sum (storedTerms (terms.map opposedTerm))
  | e => opposedTerm e

/-- The base and the exponent of a factor. A base below one that is the inverse of a
whole number is taken as that number. -/
def splitPower : Expression → Expression × Expression
  | .compound .power [.leaf (.number b), exponent] =>
      if b.num = 1 ∧ b.den ≠ 1 then (.int b.den, exponent.minus) else (.number b, exponent)
  | .compound .power [base, exponent] => (base, exponent)
  | .compound (.known "exp") [exponent] => (.constant .euler, exponent)
  | e => (e, .number 1)

/-- A multiple of a factor as it is calculated, with the inverse of a whole number as a
base taken as that number. -/
def multipleOf (c e : Expression) : Expression :=
  match e with
  | .compound .power [.leaf (.number _), _] =>
      let (base, exponent) := e.splitPower
      if c = .number 1 then e else multiple c (.compound .power [base, exponent])
  | e => multiple c e

/-- Multiples, no two of the same expression, with one more. -/
def addMultiple (c e : Expression) : List (Expression × Expression) → List (Expression × Expression)
  | [] => [(c, e)]
  | (b, d) :: rest =>
      if d = e then (addNumbers b c, d) :: rest else (b, d) :: addMultiple c e rest

/-- The number among the terms of a sum with one more. -/
def addTerm (total e : Expression) : Expression :=
  let undirected := Expression.constant .complexInfinity
  if e = undirected then if total.isUnbounded then .constant .undefined else e
  else if total = undirected then if e.isUnbounded then .constant .undefined else total
  else addNumbers total e

/-- Terms next to an infinite number, which takes up real numbers of the same sign or
of any finite size. -/
def besideTotal (total : Expression) (terms : List Expression) : List Expression :=
  terms.filter fun e =>
    match total with
    | .constant .infinity => e.magnitude?.isNone && e.isNonnegative? ≠ some true
    | .constant .negativeInfinity =>
        e.magnitude?.isNone && e.opposedTerm.isNonnegative? ≠ some true
    | .constant .complexInfinity => e.complexValue?.isNone
    | _ => true

def sum (es : List Expression) : Expression :=
  let terms := es.flatMap termsOf
  let isTotal (e : Expression) : Bool := e.isNumeral || e = .constant .complexInfinity
  let total := (terms.filter isTotal).foldl addTerm (.number 0)
  let multiples := (terms.filter fun e => !isTotal e).foldl (fun done e =>
    let (c, rest) := e.splitMultiple
    addMultiple c rest done) []
  let undefined := Expression.constant .undefined
  if total = undefined ∨ multiples.any (fun m => m.1 = undefined) then undefined
  else
    let kept := besideTotal total
      ((multiples.filter fun m => !m.1.isZero).map fun m => multipleOf m.1 m.2)
    match (if total = .number 0 then stored kept else total :: stored kept) with
    | [] => .number 0
    | [e] => e
    | terms => .compound .sum terms

/-- A number times an expression. Of a sum every term is multiplied. -/
def scaled (c e : Expression) : Expression :=
  let times (e : Expression) : Expression :=
    let (b, rest) := e.asMultiple
    if e.isNumeral then multiplyNumbers c e else multipleOf (multiplyNumbers c b) rest
  if c = .number 1 then e
  else if c = .number 0 then c
  else
    match e with
    | .compound .sum terms => sum (terms.map times)
    | e => times e

/-- The difference of two expressions. -/
def difference (d e : Expression) : Expression := sum [d, e.minus]

end Clausal.Expression
