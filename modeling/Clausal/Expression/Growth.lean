import Clausal.Expression.Limits

/-!
# Orders of growth

The order of an expression at zero is the power of its symbol that it is a multiple of, up to
terms that vanish faster. A sum with an order in it leaves out all terms that are not larger,
and a product with an order is an order.
-/

namespace Clausal.Expression

/-- The known functions that are as small as their argument near zero. -/
def proportionalFunctions : List String :=
  ["sin", "tan", "asin", "atan", "sinh", "tanh", "asinh", "atanh", "erf"]

/-- The least of a number and others. -/
def leastOf (q : Rat) (qs : List Rat) : Rat :=
  qs.foldl (fun least q => if q < least then q else least) q

/-- The least number of a list. -/
def leastOf? : List Rat → Option Rat
  | [] => none
  | q :: qs => some (leastOf q qs)

mutual

/-- The exponent of the leading power of a symbol in an expression near zero. -/
def leadingExponent? (x : Expression) : Expression → Option Rat
  | .sym name => some (if x = .sym name then 1 else 0)
  | .leaf (.number q) => if q = 0 then none else some 0
  | .leaf _ => some 0
  | .compound .sum parts => (leadingExponents? x parts).bind leastOf?
  | .compound .product parts =>
      (leadingExponents? x parts).map fun exponents => exponents.foldl (· + ·) 0
  | .compound .power [base, .leaf (.number q)] => (leadingExponent? x base).map fun n => n * q
  | .compound (.known function) [e] =>
      match leadingExponent? x e with
      | some n =>
          if 0 < n && proportionalFunctions.contains function then some n
          else if 0 < n && ["exp", "cos", "cosh", "sec", "sech"].contains function then some 0
          else none
      | none => none
  | _ => none

def leadingExponents? (x : Expression) : List Expression → Option (List Rat)
  | [] => some []
  | e :: es => do
      let n ← leadingExponent? x e
      let ns ← leadingExponents? x es
      some (n :: ns)

end

/-- The order of a power of a symbol. -/
def orderOfPower (x : Expression) (n : Rat) : Expression :=
  .compound (.known "Order") [power x (.number n)]

/-- The order that an expression has, if it has one symbol at most. -/
def order? (e : Expression) : Option Expression :=
  match e.symbols with
  | [] => some (if e = .number 0 then e else .compound (.known "Order") [.number 1])
  | [x] => (leadingExponent? x e).map (orderOfPower x)
  | _ => none

def orderPower? : Expression → Option (Expression × Rat)
  | .compound (.known "Order") [e] =>
      match e.symbols with
      | [x] => (leadingExponent? x e).map fun n => (x, n)
      | _ => none
  | _ => none

/-- The terms of a sum beside the order of a power: those that are larger. -/
def largerTerms (x : Expression) (n : Rat) (terms : List Expression) : List Expression :=
  terms.filter fun e =>
    match leadingExponent? x e with
    | some m => m < n
    | none => true

/-- A sum with orders in it, of which the largest takes up all terms that are not larger. -/
def settledSum (e : Expression) : Expression :=
  let (orders, terms) := e.termsOf.partition fun term => term.splitMultiple.2.isOrder
  match orders.filterMap fun term => orderPower? term.splitMultiple.2 with
  | [] => e
  | (x, n) :: others =>
      if others.all fun other => other.1 = x then
        let n := leastOf n (others.map Prod.snd)
        let kept := largerTerms x n terms
        .compound .sum (storedTerms (kept ++ [orderOfPower x n]))
      else e

/-- The factors of a product as an order, if one of them is an order. -/
def settledProduct (e : Expression) : Expression :=
  let (orders, factors) := e.factorsOf.partition fun factor => factor.splitPower.1.isOrder
  let exponents := orders.filterMap fun factor =>
    match orderPower? factor.splitPower.1, factor.splitPower.2 with
    | some (x, n), .leaf (.number q) => some (x, n * q)
    | _, _ => none
  match exponents with
  | [] =>
      if orders.isEmpty || factors.isEmpty then e else (order? (product factors)).getD e
  | (x, n) :: others =>
      match leadingExponents? x factors with
      | some exponents =>
          if others.all fun other => other.1 = x then
            orderOfPower x ((others.map Prod.snd ++ exponents).foldl (· + ·) n)
          else e
      | none => e

/-- An expression in which orders take up what is not larger. -/
def settled (e : Expression) : Expression :=
  if !e.factorsOf.any fun factor => factor.splitPower.1.isOrder then
    if e.termsOf.any fun term => term.factorsOf.any fun factor => factor.splitPower.1.isOrder then
      settledSum (match e with
        | .compound .sum terms => .compound .sum (terms.map settledProduct)
        | e => e)
    else e
  else settledProduct e

/-- The terms of a sum that are no orders. -/
def withoutOrders (e : Expression) : Expression := sum (e.termsOf.filter fun term => !term.isOrder)

def factorialOf : Nat → Nat
  | 0 => 1
  | n + 1 => (n + 1) * factorialOf n

/-- The terms of a series at zero, from one derivative on. -/
def seriesTerms? (x : Expression) : (count place : Nat) → Expression → Option (List Expression)
  | 0, _, _ => some []
  | count + 1, place, e => do
      let value ← substitute? x (.number 0) e
      if isUndetermined value then none
      let next ← derivative? x e
      let rest ← seriesTerms? x count (place + 1) next
      let factor : Rat := 1 / (factorialOf place : Nat)
      some (product [value, .number factor, power x (.number (place : Nat))] :: rest)

/-- How many terms of a series are computed if nothing is said about it. -/
def usualTerms : Nat := 6

/-- The greatest number of terms of a series. -/
def seriesLimit : Nat := 16

/-- The series of an expression at zero up to a power, with the order of the rest. A polynomial
of a smaller degree is its own series. -/
def series? (e x : Expression) (count : Nat) : Option Expression :=
  match coefficients? x e with
  | some p =>
      if p.length ≤ count then some e
      else some (settledSum (sum [ofCoefficients x (p.take count), orderOfPower x (count : Nat)]))
  | none =>
      if seriesLimit < count then none
      else do
        let terms ← seriesTerms? x count 0 e
        some (settledSum (sum (terms ++ [orderOfPower x (count : Nat)])))

end Clausal.Expression
