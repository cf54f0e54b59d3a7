import Clausal.Expression.Expansion

/-!
# Polynomials in one variable

A polynomial with rational coefficients is the list of them, that of the constant term
first, without zeros at the end. Two polynomials have a greatest common divisor, and a
polynomial is a number times powers of polynomials with whole coefficients that have no
common divisor.
-/

namespace Clausal

/-- The coefficients of a polynomial, that of the constant term first. -/
abbrev Coefficients := List Rat

namespace Coefficients

/-- Coefficients without zeros at the end. -/
def trimmed (p : Coefficients) : Coefficients := (p.reverse.dropWhile (· = 0)).reverse

/-- The sum of the coefficients at the same places. -/
def merged : Coefficients → Coefficients → Coefficients
  | [], q => q
  | p, [] => p
  | a :: p, b :: q => (a + b) :: merged p q

/-- The sum of two polynomials. -/
def plus (p q : Coefficients) : Coefficients := trimmed (merged p q)

def scale (c : Rat) (p : Coefficients) : Coefficients := trimmed (p.map (c * ·))

/-- The product of two polynomials. -/
def times : Coefficients → Coefficients → Coefficients
  | [], _ => []
  | a :: p, q => plus (scale a q) (0 :: times p q)

def raised (p : Coefficients) : Nat → Coefficients
  | 0 => [1]
  | n + 1 => times (raised p n) p

/-- The coefficient of the highest power, and zero for no coefficients. -/
def leading (p : Coefficients) : Rat := p.getLastD 0

def degree (p : Coefficients) : Nat := p.length - 1

def valueAt (q : Rat) (p : Coefficients) : Rat := p.foldr (fun a value => a + q * value) 0

def derived (p : Coefficients) : Coefficients :=
  trimmed ((p.zipIdx.map fun (a, n) => a * (n : Nat)).drop 1)

/-- The quotient and the rest of a division. The fuel bounds the number of steps. -/
def divideWithin (divisor : Coefficients) :
    (fuel : Nat) → (quotient rest : Coefficients) → Coefficients × Coefficients
  | 0, quotient, rest => (quotient, rest)
  | fuel + 1, quotient, rest =>
      if rest.length < divisor.length || divisor = [] then (quotient, rest)
      else
        let step := List.replicate (rest.length - divisor.length) 0 ++
          [leading rest / leading divisor]
        divideWithin divisor fuel (plus quotient step)
          (plus rest (scale (-1) (times step divisor)))

def divide (p divisor : Coefficients) : Coefficients × Coefficients :=
  divideWithin divisor (p.length + 1) [] p

/-- A polynomial divides another one. -/
def divides (divisor p : Coefficients) : Bool := (divide p divisor).2 = []

/-- A common divisor, by dividing with a rest. The fuel bounds the number of steps. -/
def commonWithin : (fuel : Nat) → Coefficients → Coefficients → Coefficients
  | 0, p, _ => p
  | _ + 1, p, [] => p
  | fuel + 1, p, q => commonWithin fuel q (divide p q).2

/-- The greatest number that goes into all coefficients a whole number of times, with
the sign of the leading coefficient. -/
def content (p : Coefficients) : Rat :=
  let above := p.foldl (fun d a => Nat.gcd d a.num.natAbs) 0
  let below := p.foldl (fun m a => Nat.lcm m a.den) 1
  let size : Rat := (above : Rat) / (below : Nat)
  if leading p < 0 then -size else size

/-- A polynomial without its content. -/
def primitive (p : Coefficients) : Coefficients :=
  if p = [] then [] else scale (1 / content p) p

/-- The greatest common divisor of two polynomials, without content. -/
def common (p q : Coefficients) : Coefficients :=
  primitive (commonWithin (p.length + q.length + 1) p q)

/-- The divisors of a number with both signs. -/
def signedDivisors (n : Nat) : List Int :=
  (Expression.divisors n).flatMap fun (d : Nat) => [(d : Int), -(d : Int)]

/-- The greatest coefficient whose divisors are tried. -/
def coefficientLimit : Nat := 10000

def linearDivisors (p : Coefficients) : List Coefficients :=
  let constant := (p.headD 0).num.natAbs
  let lead := (leading p).num.natAbs
  if constant = 0 then [[0, 1]]
  else if coefficientLimit < constant ∨ coefficientLimit < lead then []
  else (signedDivisors constant).flatMap fun (a : Int) =>
    (Expression.divisors lead).filterMap fun (b : Nat) =>
      let line : Coefficients := [(a : Rat), (b : Rat)]
      if Nat.gcd a.natAbs b = 1 && divides line p then some line else none

/-- The greatest value whose divisors are tried for quadratic divisors. -/
def valueLimit : Nat := 400

/-- The quadratic divisors of a polynomial with whole coefficients, from the divisors of
its values at minus one, zero and one. -/
def quadraticDivisors (p : Coefficients) : List Coefficients :=
  let size (q : Rat) : Nat := (valueAt q p).num.natAbs
  if valueLimit < size (-1) ∨ valueLimit < size 0 ∨ valueLimit < size 1 then []
  else (Expression.divisors (size 0)).flatMap fun (c : Nat) =>
    (signedDivisors (size 1)).flatMap fun above =>
      (signedDivisors (size (-1))).filterMap fun below =>
        let square : Rat := ((above + below : Int) : Rat) / 2 - c
        let line : Rat := ((above - below : Int) : Rat) / 2
        let divisor : Coefficients := primitive [(c : Rat), line, square]
        if square ≠ 0 && divisor.all (fun a => a.den = 1) && divides divisor p then some divisor
        else none

/-- Divisors that a polynomial without repeated divisors is a product of. The fuel bounds
their number. -/
def splitWithin : (fuel : Nat) → Coefficients → List Coefficients
  | 0, p => [p]
  | fuel + 1, p =>
      if p.length ≤ 2 then (if p.length = 2 then [p] else [])
      else
        match (linearDivisors p).head?.or
            (if 3 < p.length then (quadraticDivisors p).head? else none) with
        | some divisor => divisor :: splitWithin fuel (primitive (divide p divisor).1)
        | none => [p]

/-- The divisors of a polynomial by how often they occur. The fuel bounds how often. -/
def repeatedWithin : (fuel : Nat) → (count : Nat) → (p rest : Coefficients) →
    List (Coefficients × Nat)
  | 0, count, p, _ => [(p, count)]
  | fuel + 1, count, p, rest =>
      if p.length ≤ 1 then []
      else
        let next := common p rest
        let once := primitive (divide p next).1
        let here := if once.length ≤ 1 then [] else [(once, count)]
        here ++ repeatedWithin fuel (count + 1) next (primitive (divide rest next).1)

/-- The content of a polynomial, and the divisors that have no divisors, with how often
they occur. -/
def factored (p : Coefficients) : Rat × List (Coefficients × Nat) :=
  let whole := primitive p
  let repetition := common whole (derived whole)
  let simple := primitive (divide whole repetition).1
  let groups := repeatedWithin p.length 1 simple repetition
  (content p, groups.flatMap fun (group, count) =>
    (splitWithin group.length group).map fun divisor => (divisor, count))

end Coefficients

namespace Expression

/-- The greatest degree of a polynomial that is calculated with. -/
def polynomialLimit : Nat := 64

mutual

/-- The coefficients of an expression that is a polynomial in a symbol. -/
def coefficients? (x : Expression) : Expression → Option Coefficients
  | .number q => some (Coefficients.trimmed [q])
  | .sym name => if x = .sym name then some [0, 1] else none
  | .compound .sum parts => (coefficientsAll? x parts).map fun ps =>
      ps.foldl Coefficients.plus []
  | .compound .product parts => (coefficientsAll? x parts).map fun ps =>
      ps.foldl Coefficients.times [1]
  | .compound .power [base, .leaf (.number q)] => do
      let p ← coefficients? x base
      if q.den = 1 ∧ 0 ≤ q ∧ q.num.toNat * p.degree ≤ polynomialLimit then
        some (p.raised q.num.toNat)
      else none
  | _ => none

/-- The coefficients of expressions that are all polynomials in a symbol. -/
def coefficientsAll? (x : Expression) : List Expression → Option (List Coefficients)
  | [] => some []
  | e :: es => do
      let p ← coefficients? x e
      let ps ← coefficientsAll? x es
      some (p :: ps)

end

def ofCoefficients (x : Expression) (p : Coefficients) : Expression :=
  sum (p.zipIdx.map fun (a, n) => product [.number a, power x (.number (n : Nat))])

/-- A number times an expression, of which a sum keeps its terms together. -/
def keptMultiple (c : Rat) (e : Expression) : Expression :=
  if c = 1 then e
  else if c = -1 then negated e
  else
    match e with
    | .compound .sum terms => .compound .product [.number c, .compound .sum terms]
    | .compound .product factors => .compound .product (.number c :: factors)
    | e => product [.number c, e]

end Expression

end Clausal
