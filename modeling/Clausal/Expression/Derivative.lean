import Clausal.Expression.Functions

/-!
# Derivatives

The derivative of a sum, a product or a power with respect to a symbol follows the rules
of calculus, and that of a known function is the derivative at the argument times that of
the argument. The derivative of an application of an unknown function stands for itself.
-/

namespace Clausal.Expression

/-- The derivative of an expression with respect to a symbol, as it stands. -/
def standingDerivative (e x : Expression) : Expression :=
  .compound (.known "Derivative") [e, .compound .tuple [x, .number 1]]

mutual

/-- A symbol stands somewhere inside an expression. -/
def holdsSymbol (x : Expression) : Expression → Bool
  | .sym name => x = .sym name
  | .app _ args => anyHoldsSymbol x args
  | .leaf _ => false
  | .compound _ parts => anyHoldsSymbol x parts

/-- A symbol stands somewhere inside the expressions of a list. -/
def anyHoldsSymbol (x : Expression) : List Expression → Bool
  | [] => false
  | e :: es => holdsSymbol x e || anyHoldsSymbol x es

end

def outerDerivative? (function : String) (e : Expression) : Option Expression :=
  let one : Expression := .number 1
  let below (e : Expression) : Expression := rootBelow e
  match function with
  | "exp" => some (power (.constant .euler) e)
  | "log" => some (inverse e)
  | "sin" => some (cosine e)
  | "cos" => some (negated (sine e))
  | "tan" => some (sum [square (tangent e), one])
  | "cot" => some (sum [negated (square (cotangent e)), .number (-1)])
  | "sec" => some (product [tangent e, secant e])
  | "csc" => some (product [.number (-1), cotangent e, cosecant e])
  | "asin" => some (inverse (below e))
  | "acos" => some (negated (inverse (below e)))
  | "atan" => some (inverse (sum [one, square e]))
  | "acot" => some (negated (inverse (sum [one, square e])))
  | "sinh" => some (hyperbolicCosine cosine e)
  | "cosh" => some (hyperbolicSine sine e)
  | "tanh" => some (difference one (square (hyperbolicTangent tangent e)))
  | "coth" => some (negated (power (hyperbolicSine sine e) (.number (-2))))
  | "asinh" => some (inverse (rootAbove e))
  | "acosh" => some (inverse (rootProduct e))
  | "atanh" => some (inverse (difference one (square e)))
  | "erf" =>
      some (product [.number 2, power (.constant .euler) (negated (square e)),
        inverse (root (.constant .pi))])
  | "gamma" => some (product [gamma e, .compound (.known "polygamma") [.number 0, e]])
  | "factorial" =>
      let next := sum [e, one]
      some (product [gamma next, .compound (.known "polygamma") [.number 0, next]])
  | _ => none

/-- The derivative of an application with respect to one of its arguments. A symbol or an
application in the place of the argument is what the derivative is taken with respect to,
and any other argument is put in afterwards. -/
def argumentDerivative (name : String) (args : List Expression) (place : Nat) : Expression :=
  let arg := args.getD place (.number 0)
  let others := args.eraseIdx place
  let direct :=
    match arg with
    | .sym _ => !anyHoldsSymbol arg others
    | .app _ _ => true
    | _ => false
  if direct then standingDerivative (.app name args) arg
  else
    let placeholder : Expression := .sym ("_xi_" ++ Nat.repr (place + 1))
    .compound (.known "Subs")
      [standingDerivative (.app name (args.set place placeholder)) placeholder,
        .compound .tuple [placeholder], .compound .tuple [arg]]

/-- The terms of the derivative of a product, one for each factor whose derivative is not
zero. -/
def productTerms (factors derivatives : List Expression) : List Expression :=
  ((List.range factors.length).zip derivatives).filterMap fun (place, d) =>
    if d.isZero then none else some (product (factors.set place d))

mutual

/-- The derivative of an expression with respect to a symbol, if there is a rule for
it. -/
def derivative? (x : Expression) : Expression → Option Expression
  | .sym name => some (.number (if x = .sym name then 1 else 0))
  | .leaf _ => some (.number 0)
  | .app name args => do
      let derivatives ← derivatives? x args
      let terms := ((List.range args.length).zip derivatives).filterMap fun (place, d) =>
        if d.isZero then none else some (product [argumentDerivative name args place, d])
      some (sum terms)
  | .compound .sum parts => do
      let derivatives ← derivatives? x parts
      some (sum derivatives)
  | .compound .product parts => do
      let derivatives ← derivatives? x parts
      some (sum (productTerms parts derivatives))
  | .compound .power [base, exponent] => do
      let inner ← derivative? x base
      let outer ← derivative? x exponent
      some (product [.compound .power [base, exponent],
        sum [if outer.isZero then .number 0 else product [outer, log base],
          if inner.isZero then .number 0 else product [inner, exponent, inverse base]]])
  | .compound (.known function) [e] => do
      let inner ← derivative? x e
      if inner.isZero then some (.number 0)
      else
        let outer ← outerDerivative? function e
        some (product [outer, inner])
  | .compound shape parts =>
      if anyHoldsSymbol x parts then
        match shape, parts with
        | .known "Derivative", e :: symbols =>
            some (.compound (.known "Derivative") (e :: extended x symbols))
        | _, _ => none
      else some (.number 0)

def derivatives? (x : Expression) : List Expression → Option (List Expression)
  | [] => some []
  | e :: es => do
      let d ← derivative? x e
      let ds ← derivatives? x es
      some (d :: ds)

/-- The symbols of a derivative with one more. -/
def extended (x : Expression) : List Expression → List Expression
  | [] => [.compound .tuple [x, .number 1]]
  | symbols@(_ :: _) =>
      match symbols.getLast? with
      | some (.compound .tuple [y, .leaf (.number n)]) =>
          if y = x then symbols.dropLast ++ [.compound .tuple [y, .number (n + 1)]]
          else symbols ++ [.compound .tuple [x, .number 1]]
      | _ => symbols ++ [.compound .tuple [x, .number 1]]

end

def derivativeTimes? (x : Expression) : Nat → Expression → Option Expression
  | 0, e => some e
  | n + 1, e => derivative? x e >>= derivativeTimes? x n

end Clausal.Expression
