import Clausal.Expression.Branches
import Clausal.Expression.Derivative
import Clausal.Expression.Expansion

/-!
# Derivatives, integrals, sums and limits

A derivative is taken with respect to variables, each of them some number of times, and
an integral, a sum or a product runs over variables, between bounds if there are some.
They stand for themselves until they are to be evaluated.
-/

namespace Clausal.Expression

def natural? (e : Expression) : Option Nat :=
  e.integer?.bind fun n => if n < 0 then none else some n.toNat

/-- A variable with the number of derivatives that are taken with respect to it. -/
def variableCount? : Expression → Option (Expression × Nat)
  | .compound .tuple [x, n] => n.natural?.map fun n => (x, n)
  | .compound .tuple [x] => some (x, 1)
  | .number _ => none
  | x => some (x, 1)

/-- Variables with their numbers, where a number after a variable counts for it. The last
one stands first. -/
def variableCounts? (done : List (Expression × Nat)) :
    List Expression → Option (List (Expression × Nat))
  | [] => some done
  | e :: es =>
      match e.natural?, done with
      | some n, (x, 1) :: done => variableCounts? ((x, n) :: done) es
      | some _, _ => none
      | none, done => do
          let count ← variableCount? e
          variableCounts? (count :: done) es

/-- Variables with their numbers, neighbours joined. -/
def joinedCounts : List (Expression × Nat) → List (Expression × Nat)
  | [] => []
  | (x, n) :: rest =>
      if n = 0 then joinedCounts rest
      else
        match joinedCounts rest with
        | (y, m) :: rest => if x = y then (x, n + m) :: rest else (x, n) :: (y, m) :: rest
        | [] => [(x, n)]

/-- A derivative can be taken with respect to an expression. -/
def isVariable : Expression → Bool
  | .sym _ => true
  | .app _ _ => true
  | .compound (.known "Derivative") _ => true
  | _ => false

/-- Symbols in order. Other symbols keep their places. -/
def orderedCounts (counts : List (Expression × Nat)) : List (Expression × Nat) :=
  if counts.all fun count => count.1.isSymbol then
    let names := counts.map fun count => (count, count.1.profile.key)
    (names.mergeSort fun s t => s.2.precedes t.2).map Prod.fst
  else counts

/-- The symbols of a derivative, with their numbers. If none are given, the expression
has to have a single symbol. -/
def derivationCounts? (e : Expression) (symbols : List Expression) :
    Option (List (Expression × Nat)) :=
  if symbols.isEmpty then
    match e.symbols with
    | [x] => some [(x, 1)]
    | _ => none
  else (variableCounts? [] symbols).map fun counts =>
    joinedCounts (orderedCounts (joinedCounts counts.reverse))

def countPair (count : Expression × Nat) : Expression :=
  .compound .tuple [count.1, .number count.2]

mutual

/-- An expression is another one or stands inside it. -/
def holdsPart (x : Expression) : Expression → Bool
  | .app name args => x = .app name args || anyHoldsPart x args
  | .compound shape parts => x = .compound shape parts || anyHoldsPart x parts
  | e => x = e

/-- An expression is among others or stands inside one of them. -/
def anyHoldsPart (x : Expression) : List Expression → Bool
  | [] => false
  | e :: es => holdsPart x e || anyHoldsPart x es

end

/-- The derivative of an expression, evaluated or as it stands. -/
def derivation? (evaluated : Bool) (e : Expression) (symbols : List Expression) :
    Option Expression :=
  if symbols.isEmpty && e.symbols.isEmpty then some (.number 0)
  else do
    let counts ← derivationCounts? e symbols
    if counts.any fun count => !holdsPart count.1 e then some (.number 0)
    else if counts.isEmpty then some e
    else if evaluated then
      counts.foldlM (fun e (x, n) => derivativeTimes? x n e) e
    else
      match e with
      | .compound (.known "Derivative") (inner :: pairs) => do
          let before ← variableCounts? [] pairs
          let counts := joinedCounts (orderedCounts (joinedCounts (before.reverse ++ counts)))
          some (.compound (.known "Derivative") (inner :: counts.map countPair))
      | e => some (.compound (.known "Derivative") (e :: counts.map countPair))

/-- The limits of an integral, a sum or a product: a variable, alone or with bounds. -/
def limits? : Expression → Option Expression
  | .sym name => some (.compound .tuple [.sym name])
  | .compound .tuple (.sym name :: bounds) =>
      if bounds.length ≤ 2 then some (.compound .tuple (.sym name :: bounds)) else none
  | _ => none

/-- An integral, a sum or a product as it stands. One of the same kind inside it is
joined to it. -/
def ranged? (function : String) (e : Expression) (limits : List Expression) :
    Option Expression := do
  let limits ← limits.mapM limits?
  if limits.isEmpty then none
  else
    match e with
    | .compound (.known other) (inner :: before) =>
        if other = function then some (.compound (.known function) (inner :: before ++ limits))
        else some (.compound (.known function) (e :: limits))
    | e => some (.compound (.known function) (e :: limits))

/-- The number of times that an expression grows as fast as a variable, if that is a number
other than zero. -/
def slope? (x e : Expression) : Option Expression := do
  let a ← derivative? x e
  if a.isNumber && !a.isZero then some a else none

/-- The integral of a factor that depends on a variable, up to a constant. -/
def factorIntegral? (x : Expression) : Expression → Option Expression
  | .sym name => if x = .sym name then some (product [.number (1 / 2), square x]) else none
  | .compound .power [base, exponent] =>
      if base = x && exponent = .number (-1) then some (log x)
      else if base = x && !exponent.isOpen && exponent.magnitude?.isSome then
        let next := sum [exponent, .number 1]
        some (product [power x next, inverse next])
      else if exponent = .number (-1) then
        (slope? x base).map fun a => product [inverse a, log base]
      else if !holdsSymbol x base && base.isPositiveNumber then
        (slope? x exponent).map fun a =>
          product [power base exponent, inverse a, inverse (log base)]
      else none
  | .compound (.known "exp") [e] =>
      (slope? x e).map fun a => product [inverse a, power (.constant .euler) e]
  | .compound (.known "sin") [e] =>
      (slope? x e).map fun a => product [.number (-1), inverse a, cosine e]
  | .compound (.known "cos") [e] => (slope? x e).map fun a => product [inverse a, sine e]
  | _ => none

def integralTable (x : Expression) : List (Expression × Expression) :=
  let half : Expression := .number (1 / 2)
  let one : Expression := .number 1
  let exponential := power (.constant .euler) x
  [(log x, sum [product [x, log x], negated x]),
    (product [x, log x],
      sum [product [half, square x, log x], product [.number (-1 / 4), square x]]),
    (product [x, exponential], product [difference x one, exponential]),
    (product [x, sine x], sum [negated (product [x, cosine x]), sine x]),
    (product [x, cosine x], sum [product [x, sine x], cosine x]),
    (product [sine x, cosine x], product [half, square (sine x)]),
    (square (sine x),
      sum [product [half, x], product [.number (-1 / 2), sine x, cosine x]]),
    (square (cosine x), sum [product [half, x], product [half, sine x, cosine x]]),
    (tangent x, negated (log (cosine x))),
    (inverse (sum [square x, one]), .compound (.known "atan") [x]),
    (power (.constant .euler) (negated (square x)),
      product [half, root (.constant .pi), .compound (.known "erf") [x]])]

/-- The integral of a term, up to a constant. -/
def termIntegral? (x e : Expression) : Option Expression :=
  let factors := e.factorsOf
  let (fixed, others) := factors.partition fun factor => !holdsSymbol x factor
  match others with
  | [] => some (product (x :: factors))
  | others => do
      let integral ←
        match (integralTable x).lookup (product others), others with
        | some integral, _ => some integral
        | none, [factor] => factorIntegral? x factor
        | none, _ => none
      some (product (integral :: fixed))

/-- The integral of an expression over a variable, up to a constant. -/
def integral? (x e : Expression) : Option Expression := do
  let terms ← (expanded e).termsOf.mapM (termIntegral? x)
  some (sum terms)

/-- A limit as it stands, from above unless another side is given. -/
def limitOf (e x point : Expression) : Expression :=
  .compound (.known "Limit") [e, x, point, .sym "+"]

end Clausal.Expression
