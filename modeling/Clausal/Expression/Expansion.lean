import Clausal.Expression.Functions

/-!
# Expanding expressions

Products of sums become sums of products, whole powers of sums too, a sum in an exponent
gives a product of powers, and the logarithm of a product of positive numbers a sum of
logarithms.
-/

namespace Clausal.Expression

/-- The terms of a product of sums: one from each factor. -/
def crossTerms : List Expression → List (List Expression)
  | [] => [[]]
  | factor :: factors =>
      factor.termsOf.flatMap fun term => (crossTerms factors).map (term :: ·)

/-- The product of expressions with every sum multiplied out. -/
def multipliedOut (factors : List Expression) : Expression :=
  match factors with
  | [factor] => factor
  | factors =>
      if factors.any fun factor => 1 < factor.termsOf.length then
        sum ((crossTerms factors).map product)
      else product factors

/-- The greatest exponent of a sum that is multiplied out. -/
def expansionLimit : Nat := 64

def raisedOut (base : Expression) : Nat → Expression
  | 0 => .number 1
  | n + 1 => sum ((crossTerms [raisedOut base n, base]).map product)

/-- A power multiplied out. Below a line, and for what is left of a fraction, the whole part
of the exponent counts. -/
def expandedPower (base exponent : Expression) : Expression :=
  match base, exponent with
  | .compound .sum terms, .number q =>
      let whole := q.abs.floor.toNat
      let rest := q.abs - whole
      if whole < 1 ∨ expansionLimit < whole ∨ (whole = 1 ∧ rest = 0) then power base exponent
      else
        let raised := raisedOut (.compound .sum terms) whole
        let value :=
          if rest = 0 then raised
          else sum (raised.termsOf.map fun term => product [term, power base (.number rest)])
        if q < 0 then inverse value else value
  | base, .compound .sum terms => product (terms.map fun term => power base term)
  | base, exponent => power base exponent

/-- A natural number as a power with a greater exponent, if it is one. -/
def perfectPower (n : Nat) : Nat × Nat :=
  let primes := factors n
  let common := primes.foldl (fun d (_, count) => Nat.gcd d count) 0
  if common ≤ 1 then (n, 1)
  else (primes.foldl (fun total (p, count) => total * Nat.pow p (count / common)) 1, common)

def expandedLog (e : Expression) : Expression :=
  match e with
  | .number q =>
      let part (n : Nat) : Expression :=
        let (base, count) := perfectPower n
        product [.int count, log (.int base)]
      if 0 < q then sum [part q.num.natAbs, negated (part q.den)] else log e
  | .compound .product factors =>
      let (positive, others) := factors.partition fun factor => factor.isPositive? = some true
      if positive.isEmpty then log e
      else
        sum (positive.map expandedPart ++ [if others.isEmpty then .number 0 else
          log (product others)])
  | e => expandedPart e
where
  expandedPart (e : Expression) : Expression :=
    match e with
    | .compound .power [base, exponent] =>
        if base.isPositive? = some true && exponent.isReal? = some true then
          product [exponent, log base]
        else log e
    | .number q =>
        let part (n : Nat) : Expression :=
          let (base, count) := perfectPower n
          product [.int count, log (.int base)]
        if 0 < q then sum [part q.num.natAbs, negated (part q.den)] else log e
    | e => log e

mutual

/-- An expression multiplied out, once from the inside to the outside. -/
def expandedOnce : Expression → Expression
  | .compound .sum parts => sum (allExpandedOnce parts)
  | .compound .product parts => multipliedOut (allExpandedOnce parts)
  | .compound .power [base, exponent] => expandedPower (expandedOnce base) (expandedOnce exponent)
  | .compound (.known "exp") [e] =>
      product ((expandedOnce e).termsOf.map (power (.constant .euler)))
  | .compound (.known "log") [e] => expandedLog (expandedOnce e)
  | .compound (.known function) parts =>
      let parts := allExpandedOnce parts
      (known? function parts).getD (.compound (.known function) parts)
  | .app name args => .app name (allExpandedOnce args)
  | e => e

def allExpandedOnce : List Expression → List Expression
  | [] => []
  | e :: es => expandedOnce e :: allExpandedOnce es

end

/-- An expression multiplied out until nothing changes. The fuel bounds the number of
rounds. -/
def expandedWithin : (fuel : Nat) → Expression → Expression
  | 0, e => e
  | fuel + 1, e =>
      let expanded := expandedOnce e
      if expanded = e then e else expandedWithin fuel expanded

def expansionRounds : Nat := 8

def expanded (e : Expression) : Expression := expandedWithin expansionRounds e

end Clausal.Expression
