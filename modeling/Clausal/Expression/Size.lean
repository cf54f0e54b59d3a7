import Clausal.Expression.Argument

/-!
# Sizes, signs and parts of quantities

The absolute value of a product is the product of the absolute values, as far as these
are known. Rounding keeps whole numbers outside, and the parts of a sum are the sums of
the parts. The greatest and the least of quantities are decided between those whose
difference is a number, and the rest of a division is that of its terms.
-/

namespace Clausal.Expression

/-- The real and the imaginary part of a closed quantity, as far as its terms show
them. -/
def closedParts? (e : Expression) : Option (Expression × Expression) :=
  if e.isOpen then none
  else
    let (imaginary, real) := e.termsOf.partition fun term => (coefficientIn? unit term).isSome
    if real.all fun term => term.isReal? = some true then
      let multiples := imaginary.filterMap (coefficientIn? unit)
      if multiples.all fun term => term.isReal? = some true then some (sum real, sum multiples)
      else none
    else none

/-- The absolute value of an expression that is no product. -/
def plainSize (e : Expression) : Expression :=
  match e with
  | .number q => .number q.abs
  | .approximate x => .approximate { x with value := x.value.abs }
  | .constant .imaginary => .number 1
  | .constant .undefined => e
  | .compound .power [base, .leaf (.number q)] =>
      if e.isNonnegative? = some true then e
      else if q < 0 && (base.isPlain || base.isOpen) then
        inverse (stands "Abs" (power base (.number (-q))))
      else stands "Abs" e
  | .compound (.known "exp") [a] =>
      match closedParts? a with
      | some (real, _) => power (.constant .euler) real
      | none => power (.constant .euler) (stands "re" a)
  | e =>
      if e.isUnbounded then .constant .infinity
      else if e.isNonnegative? = some true then e
      else if e.isSurelyNegative then negated e
      else
        match closedParts? e with
        | some (real, imaginary) => root (sum [square real, square imaginary])
        | none => even (stands "Abs") e

def absolute (e : Expression) : Expression :=
  match e with
  | .compound .product factors =>
      let sizes := factors.map fun factor => (factor, plainSize factor)
      let isStanding (size : Expression) : Bool :=
        match size with
        | .compound (.known "Abs") _ => true
        | .compound .power [.compound (.known "Abs") _, _] => true
        | _ => false
      let (unknown, known) := sizes.partition fun size => isStanding size.2
      let rest := unknown.map Prod.fst
      product (known.map Prod.snd ++ (if rest.isEmpty then [] else
        [even (stands "Abs") (product rest)]))
  | e => plainSize e

def signOf (e : Expression) : Expression :=
  let known? (e : Expression) : Option Expression :=
    if e.isZero then some (.number 0)
    else if e.isSurelyNegative then some (.number (-1))
    else if e.isPositive? = some true ∨ e = .constant .infinity then some (.number 1)
    else if e = unit then some unit
    else none
  match e with
  | .constant .undefined => e
  | .compound (.known "sign") _ => e
  | .compound .product factors =>
      let (known, unknown) := factors.partition fun factor => (known? factor).isSome
      if unknown.isEmpty then product (known.filterMap known?)
      else if known.isEmpty then stands "sign" e
      else product (known.filterMap known? ++ [stands "sign" (productFrom unknown)])
  | e => (known? e).getD (stands "sign" e)

/-- The greatest whole number that does not exceed a quantity, or the least one that
is not exceeded by it. Whole numbers among the terms of a sum stay outside. -/
def roundedTo (function : String) (whole : Rat → Int) (e : Expression) : Expression :=
  if e.isUnbounded then e
  else
    match e.magnitude?, closedParts? e with
    | some q, _ => .int (whole q)
    | none, some (real, imaginary) =>
        match real.magnitude?, imaginary.magnitude? with
        | some p, some q => sum [.int (whole p), product [.int (whole q), unit]]
        | _, _ => stands function e
    | none, none =>
        let isWhole (term : Expression) : Bool := match term with
          | .compound (.known "floor") _ => true
          | .compound (.known "ceiling") _ => true
          | term => term.integer?.isSome
        let (outside, inside) := e.termsOf.partition isWhole
        if inside.isEmpty then e else sum (outside ++ [stands function (sum inside)])

def fraction (e : Expression) : Expression :=
  match e with
  | .number q => .number (q - q.floor)
  | e =>
      let (outside, inside) := e.termsOf.partition fun term => term.integer?.isSome
      if inside.isEmpty then .number 0
      else if outside.isEmpty then
        match e.magnitude? with
        | some q => difference e (.int q.floor)
        | none => stands "frac" e
      else stands "frac" (sum inside)

/-- The real part, or the imaginary part, of a quantity. -/
def partOf (imaginary : Bool) (e : Expression) : Expression :=
  let function := if imaginary then "im" else "re"
  let other := if imaginary then "re" else "im"
  let partOfTerm (alone : Bool) (term : Expression) : Expression :=
    match coefficientIn? unit term with
    | some c =>
        if c.isReal? = some true then if imaginary then c else .number 0
        else if imaginary then stands other c else negated (stands other c)
    | none =>
        if term.isReal? = some true then if imaginary then .number 0 else term
        else
          match term.asMultiple with
          | (c, rest) =>
              if alone && c = .number 1 then stands function rest
              else product [c, stands function rest]
  if e.isUnbounded then
    if e = .constant .complexInfinity ∨ e = .constant .undefined then .constant .undefined
    else if imaginary then .number 0 else e
  else
    match e.termsOf with
    | [term] => partOfTerm true term
    | terms => sum (terms.map (partOfTerm false))

mutual

def conjugated : Expression → Expression
  | .leaf (.constant .imaginary) => .compound .product [.number (-1), .constant .imaginary]
  | .leaf v => .leaf v
  | .compound .sum parts => sum (allConjugated parts)
  | .compound .product parts => product (allConjugated parts)
  | .compound .power [base, .leaf (.number q)] =>
      if q.den = 1 then power (conjugated base) (.number q)
      else if base.isNonnegative? = some true then .compound .power [base, .number q]
      else stands "conjugate" (.compound .power [base, .number q])
  | .compound (.known "conjugate") [e] => e
  | .compound (.known function) [e] =>
      if ["exp", "sin", "cos", "tan", "cot", "sinh", "cosh", "tanh", "coth"].contains function then
        .compound (.known function) [conjugated e]
      else if (Expression.compound (.known function) [e]).isReal? = some true then
        .compound (.known function) [e]
      else stands "conjugate" (.compound (.known function) [e])
  | e => stands "conjugate" e

def allConjugated : List Expression → List Expression
  | [] => []
  | e :: es => conjugated e :: allConjugated es

end

def argument (e : Expression) : Expression :=
  match e.complexValue? with
  | some z =>
      if z.2.abs < negligible then
        if z.1.abs < negligible then .constant .undefined
        else if z.1 < 0 then .constant .pi else .number 0
      else if z.1.abs < negligible then angle (if z.2 < 0 then -1 / 2 else 1 / 2)
      else if (z.1.abs - z.2.abs).abs < negligible then
        let quarter : Rat := if z.1 < 0 then 3 / 4 else 1 / 4
        angle (if z.2 < 0 then -quarter else quarter)
      else stands "arg" e
  | none =>
      match e.asMultiple with
      | (c, rest) =>
          if e.isPositive? = some true then .number 0
          else stands "arg" (if c.isNegativeNumber then negated rest else rest)

/-- The greatest or least of some quantities. Quantities whose difference is a number
are decided, and all others are kept. -/
def extreme (function : String) (greatest : Bool) (es : List Expression) : Expression :=
  let flat := es.flatMap fun e =>
    match e with
    | .compound (.known f) parts => if f = function then parts else [e]
    | e => [e]
  let top : Expression := infinite (!greatest)
  let bottom : Expression := infinite greatest
  let flat := (flat.filter (· ≠ bottom)).eraseDups
  let beats (d e : Expression) : Bool :=
    match (difference d e).magnitude? with
    | some q => if greatest then 0 < q else q < 0
    | none => false
  if flat.contains (.constant .undefined) then .constant .undefined
  else if flat.contains top then top
  else
    match flat.filter fun e => !flat.any fun d => beats d e with
    | [] => bottom
    | [e] => e
    | kept => .compound (.known function) (ordered kept)

def numberRest (p q : Expression) : Expression :=
  let floor : Rat := (p.value / q.value).floor
  addNumbers p (multiplyNumbers (.number (-floor)) q)

def standingRest (d e : Expression) : Expression := .compound (.known "Mod") [d, e]

/-- The rest of a division that is a number, or zero, or a difference. -/
def simpleRest? (d e : Expression) : Option Expression :=
  if d = .constant .undefined ∨ e.isUnbounded ∨ d.isUnbounded then some (.constant .undefined)
  else if d.isZero ∨ d = e ∨ d = e.minus then some (.number 0)
  else if d.isNumber && e.isNumber then some (numberRest d e)
  else
    match (quotient d e).integer?, (quotient d e).magnitude? with
    | some _, _ => some (.number 0)
    | none, some q => some (difference d (product [.int q.floor, e]))
    | none, none => none

/-- The integer in front of a term, and its other factors with natural exponents. -/
def monomial (e : Expression) : Rat × List (Expression × Nat) :=
  let (c, rest) := e.asMultiple
  let factors := if rest = .number 1 then [] else rest.factorsOf
  (match c with
    | .number q => q
    | _ => 1,
   factors.map fun factor =>
    match factor with
    | .compound .power [base, .leaf (.number q)] =>
        if q.den = 1 ∧ 0 < q then (base, q.num.toNat) else (factor, 1)
    | factor => (factor, 1))

/-- The factors that all monomials have in common. -/
def commonFactor (monomials : List (Rat × List (Expression × Nat))) : Expression :=
  let whole := monomials.all fun m => m.1.den = 1
  let size : Nat :=
    if whole then monomials.foldl (fun d m => Nat.gcd d m.1.num.natAbs) 0 else 1
  let shared := (monomials.headD (1, [])).2.filterMap fun (base, _) =>
    let counts := monomials.map fun m => (m.2.lookup base).getD 0
    let least := counts.foldl min (counts.headD 0)
    if least = 0 then none else some (power base (.number (least : Nat)))
  product (.int size :: shared)

/-- A quantity divided by a factor of all its terms. -/
def withoutFactor (factor e : Expression) : Expression :=
  sum (e.termsOf.map fun term => quotient term factor)

/-- The rest of a division of two quantities. A common factor stands in front, and terms
without a rest are left out. The fuel bounds the number of common factors. -/
def remainderWithin : (fuel : Nat) → (d e : Expression) → Expression
  | 0, d, e => standingRest d e
  | fuel + 1, d, e =>
      match simpleRest? d e with
      | some rest => rest
      | none =>
          match d with
          | .compound (.known "Mod") [a, b] => ofRest fuel a b e
          | d =>
              let factor := commonFactor ((d.termsOf ++ e.termsOf).map monomial)
              let p := withoutFactor factor d
              let q := withoutFactor factor e
              let reduced := sum (p.termsOf.map fun term =>
                if p.termsOf.length = 1 then term else (simpleRest? term q).getD term)
              let turned := showsMinus reduced && showsMinus q
              let factor := if turned then factor.minus else factor
              let reduced := if turned then reduced.minus else reduced
              let q := if turned then q.minus else q
              match simpleRest? reduced q with
              | some rest => product [factor, rest]
              | none =>
                  if reduced = d && q = e then standingRest d e
                  else product [factor, remainderWithin fuel reduced q]
where
  ofRest (fuel : Nat) (a b e : Expression) : Expression :=
    if (simpleRest? b e).any isZero then remainderWithin fuel a e
    else if (product [b, difference e b]).isNonnegative? = some true then standingRest a b
    else standingRest (standingRest a b) e
  showsMinus (e : Expression) : Bool := (asMultiple e).1.isNegativeNumber

/-- The rest of a division of two quantities. -/
def remainder (d e : Expression) : Expression := remainderWithin (d.weight + e.weight) d e

end Clausal.Expression
