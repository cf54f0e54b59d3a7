import Clausal.Expression.Circle
import Clausal.Expression.Counting
import Clausal.Expression.Logarithm
import Clausal.Expression.Size

/-!
# Known functions

Every known function applied to expressions has a simpler value by the rules of its
kind, or it stands for itself. Where the arguments are of kinds that a function does
not know there is no value here.
-/

namespace Clausal.Expression

/-- An expression that can be negated and can imply others. Quantities count as
statements too. -/
def isStatement (e : Expression) : Bool := e.isProposition || e.isQuantity

/-- An expression that can be joined to propositions. One and zero count as truth
values. -/
def isJoinable (e : Expression) : Bool := e.isProposition || e.decided?.isSome

/-- The integral of the bell curve from zero on. -/
def errorFunction (e : Expression) : Expression :=
  odd (fun e =>
    match e, unitCoefficient? e with
    | .constant .infinity, _ => .number 1
    | _, some y => product [unit, stands "erfi" y]
    | e, none => if e.isZero then .number 0 else stands "erf" e) e

/-- What the integral of the bell curve leaves from one. -/
def errorComplement (e : Expression) : Expression :=
  match e with
  | .constant .infinity => .number 0
  | .constant .negativeInfinity => .number 2
  | e =>
      if e.isZero then .number 1
      else if e.isMinus then difference (.number 2) (stands "erfc" e.minus)
      else stands "erfc" e

def step (e : Expression) : Expression :=
  if e.isZero then .number (1 / 2)
  else
    match e.isPositive?, e.isSurelyNegative with
    | some true, _ => .number 1
    | _, true => .number 0
    | _, _ => .compound (.known "Heaviside") [e]

/-- Whether two quantities are equal, as a number. -/
def equalityNumber (d e : Expression) : Expression :=
  match (difference d e).complexValue? with
  | some z => .number (if z.1.abs < negligible ∧ z.2.abs < negligible then 1 else 0)
  | none =>
      if d = e then .number 1 else .compound (.known "KroneckerDelta") (ordered [d, e])

/-- The functions of one argument that have no simpler value at a symbol. -/
def plainFunctions : List String :=
  ["loggamma", "LambertW", "Ei", "Si", "Ci", "Shi", "Chi", "li", "Li", "erfinv", "erfcinv",
    "fresnels", "fresnelc", "transpose", "adjoint", "DiracDelta", "airyai", "airybi",
    "dirichlet_eta", "elliptic_k", "carmichael", "genocchi"]

def valuesAtZero : List (String × Expression) :=
  [("LambertW", .number 0), ("Ei", .constant .negativeInfinity), ("Si", .number 0),
    ("Ci", .constant .complexInfinity), ("Shi", .number 0), ("Chi", .constant .complexInfinity),
    ("li", .number 0), ("erfinv", .number 0), ("fresnels", .number 0), ("fresnelc", .number 0),
    ("elliptic_k", product [.number (1 / 2), .constant .pi]), ("dirichlet_eta", .number (1 / 2)),
    ("loggamma", .constant .infinity), ("DiracDelta", .constant .infinity)]

/-- The values of functions at one. -/
def valuesAtOne : List (String × Expression) :=
  [("loggamma", .number 0), ("dirichlet_eta", log (.number 2)),
    ("li", .constant .negativeInfinity), ("elliptic_k", .constant .complexInfinity),
    ("erfinv", .constant .infinity), ("erfcinv", .number 0), ("DiracDelta", .number 0)]

/-- A function that has no simpler value at a symbol. -/
def plainValue (function : String) (e : Expression) : Expression :=
  let known? :=
    if e = .number 0 then valuesAtZero.lookup function
    else if e = .number 1 then valuesAtOne.lookup function
    else none
  match known?, function, e with
  | some value, _, _ => value
  | none, "DiracDelta", .number _ => .number 0
  | none, "loggamma", .number q =>
      if q.den = 1 ∧ 0 < q then log (gamma (.number q))
      else if q.den = 1 then .constant .infinity
      else stands function e
  | none, "LambertW", .constant .euler => .number 1
  | none, "transpose", e =>
      if e.isOpen then stands function e else e
  | none, "adjoint", e => if e.isOpen then stands function e else conjugated e
  | none, "genocchi", e =>
      match e.integer? with
      | some (.ofNat n) =>
          if n ≤ 300 then
            .number (2 * (1 - (Nat.pow 2 n : Nat)) * bernoulliNumber n)
          else stands function e
      | _ => stands function e
  | none, _, _ => stands function e

/-- The polygamma function, which is known at some whole numbers. -/
def polygamma (order e : Expression) : Expression :=
  match order, e with
  | .number 0, .number q =>
      if q.den = 1 ∧ 0 < q ∧ q ≤ 100 then
        let harmonic := (List.range (q.num.toNat - 1)).foldl (fun h k => h + 1 / (k + 1 : Nat)) 0
        sum [.number harmonic, negated (.constant .eulerGamma)]
      else if q.den = 1 ∧ q ≤ 0 then .constant .complexInfinity
      else .compound (.known "polygamma") [order, e]
  | .number 1, .number q =>
      if q.den = 1 ∧ 0 < q ∧ q ≤ 100 then
        let squares := (List.range (q.num.toNat - 1)).foldl (fun (h : Rat) k =>
          h + 1 / ((k + 1 : Nat) * (k + 1 : Nat))) 0
        sum [.number (-squares), product [.number (1 / 6), power (.constant .pi) (.number 2)]]
      else if q.den = 1 ∧ q ≤ 0 then .constant .complexInfinity
      else .compound (.known "polygamma") [order, e]
  | order, e => .compound (.known "polygamma") [order, e]

/-- The functions of two arguments that have no simpler value at symbols. -/
def binaryFunctions : List String :=
  ["lowergamma", "uppergamma", "besselj", "bessely", "besseli", "besselk",
    "legendre", "hermite", "laguerre", "chebyshevt", "chebyshevu", "polylog", "expint"]

/-- The inverses of functions of the circle and of the hyperbola, and these functions. -/
def curved? (function : String) : Option (Expression → Expression) :=
  match function with
  | "sin" => some sine
  | "cos" => some cosine
  | "tan" => some tangent
  | "cot" => some cotangent
  | "sec" => some secant
  | "csc" => some cosecant
  | "sinc" => some cardinalSine
  | "asin" => some arcSine
  | "acos" => some arcCosine
  | "atan" => some arcTangent
  | "acot" => some arcCotangent
  | "asec" => some arcSecant
  | "acsc" => some arcCosecant
  | "sinh" => some (hyperbolicSine sine)
  | "cosh" => some (hyperbolicCosine cosine)
  | "tanh" => some (hyperbolicTangent tangent)
  | "coth" => some (hyperbolicCotangent cotangent)
  | "sech" => some (hyperbolicInverse "sech" "cosh" "asech" (hyperbolicCosine cosine))
  | "csch" => some (odd (hyperbolicInverse "csch" "sinh" "acsch" (hyperbolicSine sine)))
  | "asinh" => some areaSine
  | "acosh" => some areaCosine
  | "atanh" => some areaTangent
  | "acoth" => some areaCotangent
  | "asech" => some (stands "asech")
  | "acsch" => some (odd (stands "acsch"))
  | _ => none

def measured? (function : String) : Option (Expression → Expression) :=
  match function with
  | "Abs" => some absolute
  | "abs" => some absolute
  | "sign" => some signOf
  | "floor" => some (roundedTo "floor" Rat.floor)
  | "ceiling" => some (roundedTo "ceiling" Rat.ceil)
  | "frac" => some fraction
  | "re" => some (partOf false)
  | "im" => some (partOf true)
  | "conjugate" => some conjugated
  | "arg" => some argument
  | "factorial" => some factorial
  | "factorial2" => some doubleFactorial
  | "subfactorial" => some subfactorial
  | "gamma" => some gamma
  | "bernoulli" => some bernoulli
  | "zeta" => some zeta
  | "erf" => some errorFunction
  | "erfc" => some errorComplement
  | "erfi" => some (odd fun e => if e.isZero then .number 0 else stands "erfi" e)
  | "Heaviside" => some step
  | function =>
      if ["fibonacci", "lucas", "catalan", "bell", "harmonic", "totient", "primenu", "primeomega",
          "mobius", "divisor_sigma", "partition", "motzkin", "tribonacci", "andre", "euler",
          "primepi", "reduced_totient"].contains function then
        some (sequenceAt function)
      else none

def asNumber? (kind : String) (e : Expression) : Option Expression :=
  match kind, e with
  | "Float", .number q =>
      let digits :=
        if q.den = 1 then max Approximation.leastDigits (Nat.toDigits 10 q.num.natAbs).length
        else Approximation.leastDigits
      some (.approximate (.ofRat (Approximation.bitsFor digits) q))
  | "Float", .approximate _ => some e
  | "Float", e => e.magnitude?.map fun q =>
      .approximate (.ofRat (Approximation.bitsFor Approximation.leastDigits) q)
  | "Integer", e =>
      if e.isNumber then some (.int (if e.value < 0 then e.value.ceil else e.value.floor)) else none
  | "Rational", e => if e.isNumber then some (.number e.value) else none
  | "Number", e => if e.isNumber then some e else none
  | _, _ => none

/-- A known function of one argument. -/
def unary? (function : String) (e : Expression) : Option Expression :=
  match function with
  | "Not" => if e.isStatement then some e.negate else none
  | function =>
      if !e.isQuantity then none
      else
        match function with
        | "sqrt" => some (root e)
        | "cbrt" => some (power e (.number (1 / 3)))
        | "exp" => some (power (.constant .euler) e)
        | "log" => some (log e)
        | function =>
            match curved? function, measured? function with
            | some f, _ => some (f e)
            | none, some f => some (f e)
            | none, none =>
                if plainFunctions.contains function then some (plainValue function e)
                else if function = "digamma" then some (polygamma (.number 0) e)
                else if function = "trigamma" then some (polygamma (.number 1) e)
                else asNumber? function e

def withDigits? (e : Expression) (digits : Int) : Option Expression :=
  match e.magnitude? with
  | some q =>
      if 0 < digits then
        some (.approximate (.ofRat (Approximation.bitsFor digits.toNat) q))
      else none
  | none => none

/-- A known function of two arguments. -/
def binary? (function : String) (d e : Expression) : Option Expression :=
  match function with
  | "Implies" => if d.isStatement && e.isStatement then some (implication d e) else none
  | function =>
      match comparisonNamed? function with
      | some c =>
          let fits := d.isQuantity && e.isQuantity ||
            ((c = .eq || c = .ne) && d.isStatement && e.isStatement)
          if fits then some (related c d e) else none
      | none =>
          if !d.isQuantity || !e.isQuantity then none
          else
            match function with
            | "Pow" => some (power d e)
            | "pow" => some (power d e)
            | "root" => some (power d (inverse e))
            | "log" => some (logTo d e)
            | "binomial" => some (binomial d e)
            | "polygamma" => some (polygamma d e)
            | "RisingFactorial" => some (stepped true "RisingFactorial" d e)
            | "FallingFactorial" => some (stepped false "FallingFactorial" d e)
            | "Mod" => if e.isZero then none else some (remainder d e)
            | "KroneckerDelta" => some (equalityNumber d e)
            | "Float" => e.integer? >>= withDigits? d
            | "Rational" =>
                if d.isNumber && e.isNumber && e.value ≠ 0 then some (.number (d.value / e.value))
                else none
            | function =>
                if binaryFunctions.contains function then
                  some (.compound (.known function) [d, e])
                else none

/-- The functions of several arguments that have no simpler value at symbols. -/
def standingFunctions : List (String × Nat) :=
  [("erf2", 2), ("erf2inv", 2), ("jn", 2), ("yn", 2), ("hn1", 2), ("hn2", 2), ("hankel1", 2),
    ("hankel2", 2), ("elliptic_f", 2), ("elliptic_e", 1), ("elliptic_e", 2), ("elliptic_pi", 2),
    ("elliptic_pi", 3), ("assoc_legendre", 3), ("assoc_laguerre", 3), ("gegenbauer", 3),
    ("jacobi", 4), ("Ynm", 4), ("Znm", 4), ("marcumq", 3), ("lerchphi", 3), ("mathieus", 3),
    ("mathieuc", 3), ("mathieusprime", 3), ("mathieucprime", 3), ("SingularityFunction", 3),
    ("betainc", 4), ("betainc_regularized", 4), ("appellf1", 6), ("riemann_xi", 1),
    ("airyaiprime", 1), ("airybiprime", 1), ("stieltjes", 1), ("stieltjes", 2),
    ("hermite_prob", 2), ("legendre_symbol", 2), ("jacobi_symbol", 2), ("kronecker_symbol", 2),
    ("Rem", 2), ("udivisor_sigma", 1), ("udivisor_sigma", 2), ("divisor_sigma", 2),
    ("fibonacci", 2), ("tribonacci", 2), ("bernoulli", 2), ("euler", 2), ("genocchi", 2),
    ("harmonic", 2), ("zeta", 2), ("LambertW", 2), ("dirichlet_eta", 2), ("DiracDelta", 2),
    ("exp_polar", 1), ("polar_lift", 1), ("chebyshevt_root", 2), ("chebyshevu_root", 2)]

def angleOf (height width : Expression) : Expression :=
  let standing := Expression.compound (.known "atan2") [height, width]
  let ratio := arcTangent (quotient height width)
  match height.magnitude?, width.magnitude? with
  | some y, some x =>
      if 0 < x then ratio
      else if x < 0 then
        if y < 0 then difference ratio (.constant .pi) else sum [ratio, .constant .pi]
      else if 0 < y then product [.number (1 / 2), .constant .pi]
      else if y < 0 then product [.number (-1 / 2), .constant .pi]
      else .constant .undefined
  | _, _ => if width = .constant .infinity then .number 0 else standing

/-- The sign of an order of numbers from one on: zero if one occurs twice, and otherwise
by how many stand in the wrong order. -/
def orderSign : List Int → Int
  | [] => 1
  | n :: ns =>
      if ns.contains n then 0
      else (if (ns.filter (· < n)).length % 2 = 0 then 1 else -1) * orderSign ns

def orderSignOf (es : List Expression) : Expression :=
  match es.mapM integer? with
  | some numbers => .int (orderSign numbers)
  | none =>
      if es.eraseDups.length < es.length then .number 0 else .compound (.known "LeviCivita") es

def betaOf (d e : Expression) : Expression :=
  let standing := Expression.compound (.known "beta") [d, e]
  if !d.isNumber || !e.isNumber then standing
  else if d.isZero || e.isZero then .constant .complexInfinity
  else if e = .number 1 then inverse d
  else if d = .number 1 then inverse e
  else if e = sum [d, .number 1] then inverse (product [d, e, sequenceAt "catalan" d])
  else standing

def known? (function : String) (args : List Expression) : Option Expression :=
  let ofQuantities (value : Expression) : Option Expression :=
    if args.all isQuantity then some value else none
  match function, args with
  | "And", args => if args.all isJoinable then some (joinAll .and args) else none
  | "Or", args => if args.all isJoinable then some (joinAll .or args) else none
  | "Nand", args => if args.all isJoinable then some (joinAll .and args).negate else none
  | "Nor", args => if args.all isJoinable then some (joinAll .or args).negate else none
  | "Xor", args => some (exclusive args)
  | "Equivalent", args => some (equivalence args)
  | "ITE", [c, d, e] => some (alternative c d e)
  | "Add", [e] => some e
  | "Mul", [e] => some e
  | "Add", args => ofQuantities (sum args)
  | "Mul", args => ofQuantities (product args)
  | "Max", args => ofQuantities (extreme "Max" true args)
  | "Min", args => ofQuantities (extreme "Min" false args)
  | "Tuple", args => some (.compound .tuple args)
  | "LeviCivita", args => ofQuantities (orderSignOf args)
  | "atan2", [d, e] => ofQuantities (angleOf d e)
  | "beta", [d] => ofQuantities (betaOf d d)
  | "beta", [d, e] => ofQuantities (betaOf d e)
  | function, [e] => (unary? function e).or (standing? function [e])
  | function, [d, e] => (binary? function d e).or (standing? function [d, e])
  | function, args => standing? function args
where
  standing? (function : String) (args : List Expression) : Option Expression :=
    if standingFunctions.contains (function, args.length) &&
        args.all fun e => e.isQuantity && e.isOpen then
      some (.compound (.known function) args)
    else none

end Clausal.Expression
