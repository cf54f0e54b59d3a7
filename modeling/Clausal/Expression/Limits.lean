import Clausal.Expression.Applied
import Clausal.Expression.Fraction

/-!
# Limits and sums over ranges

The limit of a fraction of polynomials is read off its coefficients, and a continuous
expression has its value as its limit. Where the parts of a fraction vanish or grow
together, the limit is that of the fraction of their derivatives.

A sum over a range of numbers is the sum of its terms, and a sum of powers up to a symbol
is a polynomial in it.
-/

namespace Clausal.Expression

def signum (q : Rat) : Int := if q < 0 then -1 else if q = 0 then 0 else 1

def infiniteWith (sign : Int) : Expression :=
  if sign < 0 then .constant .negativeInfinity else .constant .infinity

/-- How often a number is a zero of a polynomial, and what is left without these zeros.
The fuel bounds how often. -/
def zerosAt (a : Rat) : (fuel : Nat) → Coefficients → Nat × Coefficients
  | 0, p => (0, p)
  | fuel + 1, p =>
      if p = [] ∨ p.valueAt a ≠ 0 then (0, p)
      else
        let (count, rest) := zerosAt a fuel (p.divide [-a, 1]).1
        (count + 1, rest)

/-- The limit of a fraction of two polynomials at a number, from above or from below. -/
def fractionLimit (p q : Coefficients) (a : Rat) (below : Bool) : Expression :=
  let (above, p) := zerosAt a p.length p
  let (zeros, q) := zerosAt a q.length q
  let ratio := p.valueAt a / q.valueAt a
  if zeros < above then .number 0
  else if zeros = above then .number ratio
  else infiniteWith (signum ratio * (if below ∧ (zeros - above) % 2 = 1 then -1 else 1))

/-- The limit of a fraction of two polynomials at an infinite number. -/
def farLimit (p q : Coefficients) (negative : Bool) : Expression :=
  let ratio := p.leading / q.leading
  if p.length < q.length then .number 0
  else if p.length = q.length then .number ratio
  else infiniteWith (signum ratio *
    (if negative ∧ (p.length - q.length) % 2 = 1 then -1 else 1))

/-- An infinite or an undefined number stands somewhere inside an expression. -/
def isUndetermined (e : Expression) : Bool :=
  e.tips.any fun tip => tip.isUnbounded || tip = .constant .undefined

/-- The derivatives of two expressions. -/
def derivativePair? (x d e : Expression) : Option (Expression × Expression) := do
  let d ← derivative? x d
  let e ← derivative? x e
  some (d, e)

/-- The first factor that is infinite at a point, and the product of the others. -/
def growing? (x point : Expression) (factors : List Expression) :
    Option (Expression × Expression) := do
  let factor ← factors.find? fun factor =>
    (substitute? x point factor).any fun value => value.isUnbounded
  some (factor, product (factors.erase factor))

/-- How many times a limit is looked for in another form. -/
def limitRounds : Nat := 6

/-- The limit of an expression in a symbol, if it is known. The fuel bounds the number of
derivatives that are taken. -/
def limitWithin (x point : Expression) (below : Bool) : (fuel : Nat) → Expression →
    Option Expression
  | 0, _ => none
  | fuel + 1, e =>
      if !holdsSymbol x e then some e
      else
        match rational? x e, point with
        | some (p, q), .number a =>
            if p = [] then some (.number 0) else some (fractionLimit p q a below)
        | some (p, q), .constant .infinity => some (farLimit p q false)
        | some (p, q), .constant .negativeInfinity => some (farLimit p q true)
        | _, _ => do
            let value ← substitute? x point e
            if !isUndetermined value then some value
            else
              let (above, beneath) := aboveAndBelow e
              if beneath = .number 1 then
                if value.isInfinite then some value
                else
                  match e with
                  | .compound .power [base, exponent] => do
                      let (top, bottom) ← derivativePair? x (log base) (inverse exponent)
                      let exponent ← limitWithin x point below fuel (quotient top bottom)
                      some (power (.constant .euler) exponent)
                  | .compound .product factors => do
                      let (grows, rest) ← growing? x point factors
                      let (top, bottom) ← derivativePair? x grows (inverse rest)
                      limitWithin x point below fuel (quotient top bottom)
                  | _ => none
              else
                let top ← limitWithin x point below fuel above
                let bottom ← limitWithin x point below fuel beneath
                let vanish := top = .number 0 && bottom = .number 0
                let grow := top.isUnbounded && bottom.isUnbounded
                if vanish || grow then do
                  let top ← derivative? x above
                  let bottom ← derivative? x beneath
                  limitWithin x point below fuel (quotient top bottom)
                else if bottom.isUnbounded && !isUndetermined top then some (.number 0)
                else if bottom.isZero then none
                else
                  let whole := quotient top bottom
                  if whole = .constant .undefined then none else some whole

/-- The limit of an expression in a symbol, if it is known. -/
def limit? (e x point : Expression) (below : Bool) : Option Expression :=
  limitWithin x point below limitRounds e

/-- The greatest number of terms that are added one by one. -/
def termLimit : Int := 1000

def valuesOver? (e k : Expression) (first last : Int) : Option (List Expression) :=
  if termLimit < last - first then none
  else (List.range (last - first + 1).toNat).mapM fun i =>
    substitute? k (.int (first + (i : Nat))) e

/-- The sum of the powers of the numbers up to a given one. -/
def powerSum (n : Nat) (last : Expression) : Expression :=
  let term (j : Nat) : Expression :=
    product [.number ((choices (n + 1) j : Nat) * bernoulliNumber j / (n + 1 : Nat)),
      power last (.number ((n + 1 - j : Nat)))]
  sum ((List.range (n + 1)).map term)

/-- The sum of a term over a range, if it is a power of the variable with a factor. -/
def termSum? (k first last term : Expression) : Option Expression := do
  let (fixed, others) := term.factorsOf.partition fun factor => !holdsSymbol k factor
  let total (n : Nat) : Expression :=
    expanded (difference (powerSum n last) (powerSum n (sum [first, .number (-1)])))
  match others with
  | [] => some (product (sum [last, first.minus, .number 1] :: fixed))
  | [.compound .power [base, .leaf (.number q)]] =>
      if base = k ∧ q.den = 1 ∧ 0 ≤ q ∧ q ≤ 50 then some (product (total q.num.toNat :: fixed))
      else none
  | [factor] => if factor = k then some (product (total 1 :: fixed)) else none
  | _ => none

def sumOver? (e k first last : Expression) : Option Expression :=
  match first.integer?, last.integer? with
  | some m, some n => (valuesOver? e k m n).map sum
  | _, _ =>
      if last.isUnbounded || first.isUnbounded then none
      else ((expanded e).termsOf.mapM (termSum? k first last)).map fun terms =>
        expanded (sum terms)

def productOver? (e k first last : Expression) : Option Expression :=
  match first.integer?, last.integer? with
  | some m, some n => (valuesOver? e k m n).map product
  | some 1, none => if e = k then some (factorial last) else none
  | _, _ => none

/-- The value of an expression for a number or a symbol, or its limit toward an infinite
number. -/
def valueToward? (x point : Expression) (below : Bool) (e : Expression) : Option Expression :=
  if point.isInfinite then limit? e x point below else substitute? x point e

/-- The integral of an expression between two numbers. -/
def integralOver? (e x first last : Expression) : Option Expression := do
  let whole ← integral? x e
  let above ← valueToward? x last true whole
  let below ← valueToward? x first false whole
  let value := difference above below
  if isUndetermined value && !value.isInfinite then none else some value

/-- An integral, a sum or a product with one range carried out. -/
def carriedOut? (function : String) (e range : Expression) : Option Expression :=
  match function, range with
  | "Integral", .compound .tuple [x] => integral? x e
  | "Integral", .compound .tuple [x, first, last] => integralOver? e x first last
  | "Sum", .compound .tuple [k, first, last] => sumOver? e k first last
  | "Product", .compound .tuple [k, first, last] => productOver? e k first last
  | _, _ => none

mutual

/-- An expression with all derivatives, integrals, sums, products and limits in it carried
out. -/
def done? : Expression → Option Expression
  | .compound (.known "Derivative") (e :: counts) => do
      let e ← done? e
      derivation? true e counts
  | .compound (.known "Limit") [e, x, point, side] => limit? e x point (side = .sym "-")
  | .compound (.known function) (e :: ranges) => do
      if ["Integral", "Sum", "Product"].contains function then
        let e ← done? e
        ranges.foldlM (carriedOut? function) e
      else
        let e ← done? e
        let es ← allDone? ranges
        known? function (e :: es)
  | .compound shape parts => do
      let parts ← allDone? parts
      built? shape parts
  | .app name args => do
      let args ← allDone? args
      some (.app name args)
  | e => some e

def allDone? : List Expression → Option (List Expression)
  | [] => some []
  | e :: es => do
      let e ← done? e
      let es ← allDone? es
      some (e :: es)

end

end Clausal.Expression
