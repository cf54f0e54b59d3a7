import Clausal.Expression.Coefficients
import Clausal.Expression.Substitution

/-!
# Fractions and factors

A product has a numerator and a denominator, and a sum of fractions is one fraction. A
fraction of two polynomials in one symbol is cancelled by their greatest common divisor,
and a polynomial is the product of its factors.
-/

namespace Clausal.Expression

/-- The numerator and the denominator of an expression, of which a sum is not brought to
one denominator. -/
def aboveAndBelow (e : Expression) : Expression × Expression :=
  let (above, below) := fractionParts e.factorsOf
  (product above, product below)

/-- Numerators, of which those with the same denominator are added. -/
def gatherBy (below above : Expression) :
    List (Expression × Expression) → List (Expression × Expression)
  | [] => [(below, above)]
  | (d, n) :: rest =>
      if d = below then (d, sum [n, above]) :: rest else (d, n) :: gatherBy below above rest

/-- The numerator over the product of all denominators. -/
def overAll : List (Expression × Expression) → Expression
  | [] => .number 0
  | (below, above) :: rest =>
      sum [product (above :: rest.map Prod.fst), product [below, overAll rest]]

/-- The numerator and the denominator of an expression brought to one denominator. -/
def overOne (e : Expression) : Expression × Expression :=
  match e with
  | .compound .sum terms =>
      let common : Nat := terms.foldl (fun m term =>
        match (asMultiple term).1 with
        | .number q => Nat.lcm m q.den
        | _ => m) 1
      let parts := (terms.map fun term => aboveAndBelow (product [.int common, term])).foldl
        (fun parts (above, below) => gatherBy below above parts) []
      (overAll parts, product (.int common :: parts.map Prod.fst))
  | e => aboveAndBelow e

mutual

/-- The polynomials above and below the line of a fraction in a symbol. -/
def rational? (x : Expression) : Expression → Option (Coefficients × Coefficients)
  | .compound .sum parts => (rationalAll? x parts).map fun fractions =>
      fractions.foldl (fun (p, q) (r, s) =>
        (Coefficients.plus (Coefficients.times p s) (Coefficients.times r q),
          Coefficients.times q s)) ([], [1])
  | .compound .product parts => (rationalAll? x parts).map fun fractions =>
      fractions.foldl (fun (p, q) (r, s) =>
        (Coefficients.times p r, Coefficients.times q s)) ([1], [1])
  | .compound .power [base, .leaf (.number q)] => do
      let (p, s) ← rational? x base
      let degree := max (Coefficients.degree p) (Coefficients.degree s)
      if q.den = 1 ∧ q.num.natAbs * degree ≤ polynomialLimit then
        let p := Coefficients.raised p q.num.natAbs
        let s := Coefficients.raised s q.num.natAbs
        if 0 ≤ q then some (p, s) else if p = [] then none else some (s, p)
      else none
  | e => (coefficients? x e).map fun p => (p, [1])

/-- The fractions of expressions that are all fractions in a symbol. -/
def rationalAll? (x : Expression) :
    List Expression → Option (List (Coefficients × Coefficients))
  | [] => some []
  | e :: es => do
      let fraction ← rational? x e
      let fractions ← rationalAll? x es
      some (fraction :: fractions)

end

/-- A fraction without common divisors, with whole coefficients and a positive leading
coefficient below the line. -/
def loweredTerms (p q : Coefficients) : Coefficients × Coefficients :=
  let shared := Coefficients.common p q
  let above := (p.divide shared).1
  let below := (q.divide shared).1
  let ratio := above.content / below.content
  ((Coefficients.primitive above).scale ratio.num,
    (Coefficients.primitive below).scale (ratio.den : Nat))

/-- The quotient of two polynomials in a symbol. -/
def polynomialQuotient (x : Expression) (p q : Coefficients) : Expression :=
  match q with
  | [c] => ofCoefficients x (p.scale (1 / c))
  | q => quotient (ofCoefficients x p) (ofCoefficients x q)

/-- A fraction in one symbol cancelled. -/
def cancelled? (e : Expression) : Option Expression :=
  match e.symbols with
  | [] => if e.isNumber then some e else none
  | [x] => do
      let (p, q) ← rational? x e
      let (p, q) := if p = [] then ([], [1]) else loweredTerms p q
      some (polynomialQuotient x p q)
  | _ => none

def divisorProduct (x : Expression) (divisors : List (Coefficients × Nat)) : Expression :=
  product (divisors.map fun (p, count) => power (ofCoefficients x p) (.number (count : Nat)))

/-- A polynomial, or a fraction, in one symbol as a product. -/
def factored? (e : Expression) : Option Expression :=
  match e.symbols with
  | [] => if e.isNumber then some e else none
  | [x] => do
      let (p, q) ← rational? x e
      if p = [] then some (.number 0)
      else
        let (p, q) := loweredTerms p q
        let (c, above) := Coefficients.factored p
        let (d, below) := Coefficients.factored q
        let whole := keptMultiple (c / d) (divisorProduct x above)
        if below.isEmpty then some whole
        else some (quotient whole (divisorProduct x below))
  | _ => if e.isSymbol then some e else none

/-- The greatest common divisor of two polynomials in one symbol, or of two numbers. -/
def commonDivisor? (d e : Expression) : Option Expression :=
  match (d.symbols ++ e.symbols).eraseDups with
  | [] =>
      match d, e with
      | .number p, .number q =>
          some (.number ((Nat.gcd (p.num.natAbs * q.den) (q.num.natAbs * p.den) : Nat) /
            ((p.den * q.den : Nat) : Rat)))
      | _, _ => none
  | [x] => do
      let p ← coefficients? x d
      let q ← coefficients? x e
      let size := commonContent (Coefficients.content p) (Coefficients.content q)
      some (ofCoefficients x (Coefficients.scale size (Coefficients.common p q)))
  | _ => none
where
  /-- The greatest common divisor of whole contents. Others do not count. -/
  commonContent (p q : Rat) : Rat :=
    if p.den = 1 ∧ q.den = 1 then (Nat.gcd p.num.natAbs q.num.natAbs : Nat) else 1

/-- The least common multiple of two polynomials in one symbol, or of two numbers. -/
def commonMultiple? (d e : Expression) : Option Expression :=
  match d, e with
  | .number p, .number q =>
      if p.den = 1 ∧ q.den = 1 then some (.int (Nat.lcm p.num.natAbs q.num.natAbs)) else none
  | d, e => do
      let shared ← commonDivisor? d e
      let whole ← cancelled? (quotient (product [d, e]) shared)
      some whole

/-- A row of a system of linear equations without the unknown at a place, by a row that
has it. -/
def clearedRow (place : Nat) (pivot row : List Rat) : List Rat :=
  let factor := row.getD place 0 / pivot.getD place 0
  (row.zip pivot).map fun (a, b) => a - factor * b

/-- The solution of linear equations, one unknown after the other. Every row holds the
factors of the unknowns and the value at its end. The fuel is the number of unknowns. -/
def solvedRows? (count : Nat) : (fuel : Nat) → (place : Nat) → (done rows : List (List Rat)) →
    Option (List Rat)
  | 0, _, done, _ => some (done.zipIdx.map fun (row, i) => row.getD count 0 / row.getD i 1)
  | fuel + 1, place, done, rows => do
      let pivot ← rows.find? fun row => row.getD place 0 ≠ 0
      let rest := rows.erase pivot
      solvedRows? count fuel (place + 1) (done.map (clearedRow place pivot) ++ [pivot])
        (rest.map (clearedRow place pivot))

/-- The numerator at a place over a power of a divisor as a sum of fractions: a fraction
for every power of a divisor. -/
def partialTerms (x : Expression) (c : Rat) (above : Coefficients)
    (below : List (Coefficients × Nat)) : Option (List Expression) := do
  let powers := below.flatMap fun (p, count) => (List.range count).map fun j => (p, j + 1)
  let whole := below.foldl (fun q (p, count) =>
    Coefficients.times q (Coefficients.raised p count)) [1]
  let unknowns := powers.flatMap fun (p, j) => (List.range (Coefficients.degree p)).map fun k =>
    (p, j, k)
  let columns := unknowns.map fun (p, j, k) =>
    Coefficients.times (List.replicate k 0 ++ [1])
      (Coefficients.divide whole (Coefficients.raised p j)).1
  let rows := (List.range unknowns.length).map fun i =>
    columns.map (fun column => column.getD i 0) ++ [above.getD i 0 / c]
  let solution ← solvedRows? unknowns.length unknowns.length 0 [] rows
  some (powers.filterMap fun (p, j) =>
    let numerator := Coefficients.trimmed (((unknowns.zip solution).filter fun ((q, i, _), _) =>
      q = p && i = j).map Prod.snd)
    if numerator = [] then none
    else
      let size := Coefficients.content numerator
      let below := keptMultiple (size.den : Nat) (power (ofCoefficients x p) (.number (j : Nat)))
      some (quotient (ofCoefficients x (Coefficients.scale (size.num / size)
        numerator)) below))

/-- A fraction in one symbol as a sum of a polynomial and of fractions with one divisor
each. -/
def apart? (e : Expression) : Option Expression :=
  match e.symbols with
  | [x] => do
      let (p, q) ← rational? x e
      let (p, q) := if p = [] then ([], [1]) else loweredTerms p q
      let (whole, rest) := Coefficients.divide p q
      let (c, below) := Coefficients.factored q
      let terms ← partialTerms x c rest below
      some (sum (ofCoefficients x whole :: terms))
  | _ => none

/-- The solutions of an equation that sets a polynomial in a symbol to zero, if its
divisors have degrees up to two. -/
def roots? (x e : Expression) : Option (List (Expression × Nat)) := do
  let (p, q) ← rational? x e
  let (p, _) := if p = [] then ([], []) else loweredTerms p q
  if p.length ≤ 1 then none
  else
    let groups ← (Coefficients.factored p).2.mapM fun (divisor, count) =>
      (ofDivisor divisor).map fun solutions => solutions.map fun root => (root, count)
    some (List.flatten groups)
where
  ofDivisor : Coefficients → Option (List Expression)
    | [b, a] => some [.number (-b / a)]
    | [c, b, a] =>
        let spread := root (.number (b * b - 4 * a * c))
        let solution (sign : Rat) : Expression :=
          sum [.number (-b / (2 * a)), product [.number (sign / (2 * a)), spread]]
        some [solution (-1), solution 1]
    | _ => none

end Clausal.Expression
