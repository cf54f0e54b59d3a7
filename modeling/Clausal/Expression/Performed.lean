import Clausal.Expression.Decimals
import Clausal.Expression.Growth
import Clausal.Expression.Membership
import Clausal.Expression.Limits
import Clausal.Expression.Matrix
import Clausal.Expression.Orthogonal
import Clausal.Expression.Simplified

/-!
# Operations by name

What an operation makes of expressions. A quantity is differentiated, integrated,
multiplied out, factored, cancelled, approximated, or looked at for its parts.
-/

namespace Clausal.Expression

/-- The part of a sum that is a multiple of a power of an expression, without the power. -/
def coefficientOf (e x : Expression) (exponent : Rat) : Expression :=
  let terms := e.termsOf.filterMap fun term =>
    let (others, fixed) := term.factorsOf.partition fun factor => holdsPart x factor
    match others with
    | [] => if exponent = 0 then some (product fixed) else none
    | [other] =>
        if exponent ≠ 0 ∧ other = power x (.number exponent) then some (product fixed) else none
    | _ => none
  sum terms

def exponentsOf (x : Expression) (e : Expression) : List Rat :=
  (e.termsOf.filterMap fun term => term.factorsOf.findSome? fun factor =>
    match factor with
    | .compound .power [base, .leaf (.number q)] => if base = x then some q else none
    | factor => if factor = x then some 1 else none).eraseDups

/-- The terms of a sum with the same powers of an expression taken together. -/
def collected (e x : Expression) : Expression :=
  let e := expanded e
  let powers := exponentsOf x e
  let parts := powers.map fun q =>
    let coefficient := coefficientOf e x q
    match coefficient with
    | .compound .sum terms =>
        Expression.compound .product (stored [.compound .sum terms, power x (.number q)])
    | coefficient => product [coefficient, power x (.number q)]
  sum (coefficientOf e x 0 :: parts)

/-- An expression integrated over a symbol, or over a symbol between two numbers. -/
def integrated? (e range : Expression) : Option Expression :=
  match range with
  | .compound .tuple [x, first, last] => integralOver? e x first last
  | .compound .tuple [x] => integral? x e
  | x => if x.isSymbol then integral? x e else none

/-- An exact number for an approximate one with few binary places. -/
def exactNumber? : Expression → Option Expression
  | .number q => some (.number q)
  | .approximate x => if x.value.den ≤ 1024 then some (.number x.value) else none
  | .constant c => some (.constant c)
  | .sym name => some (.sym name)
  | _ => none

/-- A row of numbers with the same distance. -/
def range? : List Expression → Option Expression
  | [.leaf (.number stop)] => some (ofRange 0 stop 1)
  | [.leaf (.number first), .leaf (.number stop)] => some (ofRange first stop 1)
  | [.leaf (.number first), .leaf (.number stop), .leaf (.number step)] =>
      if step = 0 then none else some (ofRange first stop step)
  | _ => none
where
  /-- The row with its end moved to the place after the last number. -/
  ofRange (first stop step : Rat) : Expression :=
    let count := max 0 ((stop - first) / step).ceil
    if count = 0 then .compound (.known "Range") [.number 0, .number 0, .number 1]
    else .compound (.known "Range") [.number first, .number (first + step * count), .number step]

/-- A polynomial in its symbol, with the numbers that its coefficients belong to. -/
def polynomial? (e : Expression) : Option Expression :=
  match e.symbols with
  | [x] => do
      let p ← coefficients? x e
      let domain := if p.all fun a => a.den = 1 then "ZZ" else "QQ"
      let coefficients := Expression.compound .tuple (p.map .number)
      some (.compound (.known "Poly") [coefficients, x, .leaf (.domain domain)])
  | _ => none

/-- An expression of a kind of its own. -/
def structured? (name : String) (args : List Expression) : Option Expression :=
  match name, args with
  | "Interval", args => interval? args
  | "Interval.open", [d, e] => interval? [d, e, .truth true, .truth true]
  | "Interval.Lopen", [d, e] => interval? [d, e, .truth true]
  | "Interval.Ropen", [d, e] => interval? [d, e, .truth false, .truth true]
  | "Matrix", args => Matrix.made? args
  | "MutableDenseMatrix", args => Matrix.made? args
  | "ImmutableDenseMatrix", args => Matrix.made? args
  | "Range", args => range? args
  | "Poly", [e] => polynomial? e
  | "Order", [e] => order? e
  | "Dummy", [.sym name] => some (.compound (.known "Dummy") [.sym name])
  | "Wild", [.sym name] => some (.compound (.known "Wild") [.sym name])
  | "det", [e] => (Matrix.rows? e).map fun rows => Matrix.determinant rows.length rows
  | "trace", [e] => (Matrix.rows? e).map Matrix.trace
  | name, args => (Matrix.named? name args).or (ofSets? name args)

/-- The series of an expression at zero, with the arguments that say so. -/
def seriesFrom? (e : Expression) (args : List Expression) : Option Expression :=
  match args, e.symbols with
  | [], [x] => series? e x usualTerms
  | [x], _ => series? e x usualTerms
  | [x, .leaf (.number q)], _ => if q = 0 then series? e x usualTerms else none
  | [x, .leaf (.number q), .leaf (.number count)], _ =>
      if q = 0 ∧ count.den = 1 ∧ 0 < count then series? e x count.num.toNat else none
  | _, _ => none

def performed? (name : String) (args : List Expression) : Option Expression :=
  match name, args with
  | "integrate", [e] =>
      match e.symbols with
      | [x] => integral? x e
      | _ => none
  | "integrate", e :: ranges => ranges.foldlM integrated? e
  | "limit", [e, x, point] => limit? e x point false
  | "limit", [e, x] => limit? e x (.number 0) false
  | "series", e :: args => seriesFrom? e args
  | "summation", e :: ranges => ranges.foldlM (carriedOut? "Sum") e
  | "product", e :: ranges => ranges.foldlM (carriedOut? "Product") e
  | "doit", [e] => done? e
  | "factor", [e] => factored? e
  | "cancel", [e] => cancelled? e
  | "apart", [e] => apart? e
  | "together", [e] => some (match e.overOne with
      | (above, .leaf (.number q)) => keptMultiple (1 / q) above
      | (above, below) => quotient above below)
  | "simplify", [e] => simplified? e
  | "nsimplify", [e] => exactNumber? e
  | "collect", [e, x] => some (collected e x)
  | "coeff", [e, x] => some (coefficientOf e x 1)
  | "coeff", [e, x, .leaf (.number q)] => some (coefficientOf e x q)
  | "numer", [e] => some (aboveAndBelow e).1
  | "denom", [e] => some (aboveAndBelow e).2
  | "gcd", [d, e] => commonDivisor? d e
  | "lcm", [d, e] => commonMultiple? d e
  | "N", [e] => e.inDecimals? Approximation.leastDigits
  | "N", [e, .leaf (.number q)] => if q.den = 1 then e.inDecimals? q.num.toNat else none
  | "round", [e] => e.roundedAt? none
  | "round", [e, .leaf (.number q)] => if q.den = 1 then e.roundedAt? (some q.num) else none
  | "conjugate", [e] => some e.conjugated
  | "to_nnf", [e] => if e.isProposition then some e.nnf else none
  | "count_ops", [e] => some (.number (e.operations : Nat))
  | "degree", [e, x] => (coefficients? x e).map fun p => .number (p.degree : Nat)
  | "degree", [e] =>
      match e.symbols with
      | [x] => (coefficients? x e).map fun p => .number (p.degree : Nat)
      | _ => none
  | "LC", [e] =>
      match e.symbols with
      | [x] => (coefficients? x e).map fun p => .number p.leading
      | _ => none
  | "Mod", [d, e] => if e.isZero then none else some (remainder d e)
  | name, [d, e] =>
      (structured? name [d, e]).or ((orthogonalAt? name d e).or (applied? name [d, e]))
  | name, args => (structured? name args).or (applied? name args)

/-- Other names of operations where they belong to an expression. -/
def ownNames : List (String × String) :=
  [("n", "N"), ("evalf", "N")]

/-- The operations that belong to an expression. -/
def ownOperations : List String :=
  ["diff", "integrate", "limit", "series", "doit", "factor", "cancel", "apart", "together",
    "simplify", "nsimplify", "collect", "coeff", "expand", "conjugate", "to_nnf", "round", "n",
    "evalf"]

/-- An operation that belongs to an expression. -/
def ownPerformed? (name : String) (e : Expression) (args : List Expression) : Option Expression :=
  if ownOperations.contains name then performed? ((ownNames.lookup name).getD name) (e :: args)
  else none

end Clausal.Expression
