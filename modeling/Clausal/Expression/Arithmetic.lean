import Clausal.Expression.Sum

/-!
# Products and powers

A product has no product among its factors, at most one number, and no two powers of
the same base whose exponents are multiples of the same expression. Roots of numbers
have small radicands (`Radical`), the imaginary unit counts as a root of minus one,
and powers of numbers with the same exponent become one.

A power of a power has the product of both exponents where that is sure to be the
same, and a power of a product gives up the factors that are sure not to be negative.
-/

namespace Clausal.Expression

/-- The factors of a product, or the expression itself. -/
def factorsOf : Expression → List Expression
  | .compound .product factors => factors
  | e => [e]

/-- Powers with one more. Powers of the same base become one if their exponents are
multiples of the same expression. -/
def addPower (base exponent : Expression) :
    List (Expression × Expression × Expression) → List (Expression × Expression × Expression)
  | [] => [(base, exponent.asMultiple)]
  | (b, c, e) :: rest =>
      let (c', e') := exponent.asMultiple
      if b = base ∧ e = e' then (b, addNumbers c c', e) :: rest
      else (b, c, e) :: addPower base exponent rest

/-- Powers of which no two have the same base and exponents that are multiples of the
same expression. Those with the exponent zero are left out. -/
def joinPowers (powers : List (Expression × Expression)) : List (Expression × Expression) :=
  let joined := powers.foldl (fun done (base, exponent) => addPower base exponent done) []
  (joined.map fun (base, c, e) => (base, scaled c e)).filter fun power => power.2 ≠ .number 0

/-- Powers of numbers as one power for every exponent. -/
def joinNumbers (powers : List (Expression × Expression)) : List (Expression × Expression) :=
  powers.foldl (fun done (base, exponent) => insert base exponent done) []
where
  insert (base exponent : Expression) :
      List (Expression × Expression) → List (Expression × Expression)
    | [] => [(base, exponent)]
    | (b, e) :: rest =>
        if e = exponent then (multiplyNumbers b base, e) :: rest
        else (b, e) :: insert base exponent rest

/-- What the factors of a product are gathered in: a number, powers of minus one, roots
of natural numbers, powers of numbers, and other powers. -/
structure Gathering where
  total : Expression := .number 1
  turn : Rat := 0
  roots : List (Nat × Rat) := []
  exponentials : List (Expression × Expression) := []
  powers : List (Expression × Expression) := []

/-- A gathering with one more factor. -/
def Gathering.add (g : Gathering) (e : Expression) : Gathering :=
  if e.isNumeral || e = .constant .complexInfinity then
    { g with total := multiplyNumbers g.total e }
  else if e = .constant .imaginary then { g with turn := g.turn + 1 / 2 }
  else
    match e.splitPower with
    | (.number b, .number q) =>
        if b.den = 1 ∧ 0 < q then
          { g with
            turn := if b < 0 then g.turn + q else g.turn
            roots := if b.num.natAbs = 1 then g.roots else g.roots ++ [(b.num.natAbs, q)] }
        else { g with powers := g.powers ++ [(.number b, .number q)] }
    | (base, exponent) =>
        if base.isNumber && 0 < base.value then
          { g with exponentials := g.exponentials ++ [(base, exponent)] }
        else { g with powers := g.powers ++ [(base, exponent)] }

/-- A number, a power of minus one and roots as a number and other factors. A root with
the same exponent becomes part of the power of minus one. -/
def turned (total : Expression) (turn : Rat) (roots : List (Nat × Rat)) :
    Expression × List Expression :=
  let r := Radical.gathered roots
  let total := multiplyNumbers total (.number r.coefficient)
  let total := if turn.floor % 2 = 0 then total else multiplyNumbers (.number (-1)) total
  let rest := turn - turn.floor
  let powers (ps : List (Nat × Rat)) : List Expression :=
    ps.map fun (n, e) => .compound .power [.int n, .number e]
  if rest = 0 then (total, powers r.powers)
  else if rest = 1 / 2 then (total, .constant .imaginary :: powers r.powers)
  else
    match r.powers.find? fun p => p.2 = rest with
    | some (n, e) =>
        (total, .compound .power [.int (-n), .number e] :: powers (r.powers.erase (n, e)))
    | none => (total, .compound .power [.number (-1), .number rest] :: powers r.powers)

/-- Factors next to an infinite number, which loses its sign to them if they are real. -/
def besideInfinite (total : Expression) (factors : List Expression) :
    Expression × List Expression :=
  if total = .constant .complexInfinity then
    (total, factors.filter fun e => !(e.isReal?.isSome && e.complexValue?.isSome))
  else
    let negative := factors.filter isSurelyNegative
    let kept := factors.filter fun e => !e.isSurelyNegative && e.isPositive? ≠ some true
    (if negative.length % 2 = 0 then total else multiplyNumbers (.number (-1)) total, kept)

/-- A number and other factors as one expression. A number times a sum is the sum of
the multiples of its terms. -/
def assembled (total : Expression) (factors : List Expression) : Expression :=
  let (total, factors) :=
    if total.isUnbounded then besideInfinite total factors else (total, factors)
  let total := (factors.filter isNumeral).foldl multiplyNumbers total
  if total = .constant .undefined ∨ total.isZero then total
  else
    match stored (factors.filter fun e => !e.isNumeral) with
    | [] => total
    | [.compound .sum terms] =>
        if total.isUnbounded then .compound .product [total, .compound .sum terms]
        else scaled total (.compound .sum terms)
    | factors => productFrom (if total = .number 1 then factors else total :: factors)

/-- The greatest number of bits of a power that is calculated. -/
def bitLimit : Nat := 400000

/-- The greatest degree of a root that is calculated. -/
def degreeLimit : Nat := 4096

/-- The power of a rational number with a whole exponent, unless it is too long. -/
def wholePower? (b : Rat) (n : Int) : Option Rat :=
  if bitLimit < n.natAbs * (b.num.natAbs.log2 + b.den.log2) then none
  else some (if n < 0 then 1 / b ^ n.natAbs else b ^ n.natAbs)

def rationalPower (b e : Rat) : Expression :=
  let unchanged : Expression := .compound .power [.number b, .number e]
  if b = 0 then
    if e < 0 then .constant .complexInfinity else .number (if e = 0 then 1 else 0)
  else if e.den = 1 then (wholePower? b e.num).elim unchanged .number
  else if degreeLimit < e.den ∨ bitLimit < e.num.natAbs * (b.num.natAbs.log2 + b.den.log2) then
    unchanged
  else
    let size := if e < 0 then 1 / b.abs else b.abs
    let r := Radical.ofPositive size e.abs
    let (total, roots) := turned (.number r.coefficient) (if b < 0 then e else 0) r.powers
    assembled total roots

def imaginaryPower (e : Rat) : Expression :=
  if e.den = 1 then
    match e.num % 4 with
    | 0 => .number 1
    | 1 => .constant .imaginary
    | 2 => .number (-1)
    | _ => .compound .product [.number (-1), .constant .imaginary]
  else
    let count := (e / 2).floor
    let root : Expression := .compound .power [.constant .imaginary, .number (e - 2 * count)]
    if count % 2 = 0 then root else .compound .product [.number (-1), root]

def rootBits : Nat := 256

/-- The square root of a positive number, rounded. A last bit stands for what is
left. -/
def roundedRoot (bits : Nat) (q : Rat) : Expression :=
  let scaled := q.num.natAbs * q.den * Nat.pow 4 (rootBits + bits)
  let root := rootFloor 2 scaled
  let last := if root * root = scaled then 0 else 1
  calculated bits ((2 * root + last : Nat) / (2 * q.den * Nat.pow 2 (rootBits + bits) : Nat) : Rat)

/-- The power of an approximate number that is not zero, if its base is positive or its
exponent is whole. -/
def realPower? (bits : Nat) (b e : Rat) : Option Expression :=
  if e.den = 1 ∧ e.num.natAbs ≤ degreeLimit then
    (wholePower? b e.num).map (calculated bits)
  else if b < 0 then none
  else if e = 1 / 2 then some (roundedRoot bits b)
  else (Approximation.power? bits b e).map .approximate

/-- The power of an approximate number with a number as its exponent. An odd root of a
negative number is a multiple of a root of minus one, and other powers have an
imaginary part. -/
def approximatePower (x : Approximation) (exponent : Expression) : Expression :=
  let e := exponent.value
  let bits := max x.bits exponent.bits
  let unchanged : Expression := .compound .power [.approximate x, exponent]
  if x.value = 0 then
    if 0 < e then .approximate x
    else if e < 0 then .constant .complexInfinity else calculated bits 1
  else if 0 < x.value ∨ e.den = 1 then (realPower? bits x.value e).getD unchanged
  else
    match realPower? bits (-x.value) e with
    | none => unchanged
    | some size =>
        if exponent.bits = 0 ∧ e.num = 1 ∧ e.den % 2 = 1 then
          .compound .product [size, .compound .power [.number (-1), exponent]]
        else
          let angle := (e - 2 * (e / 2).floor) * Complex.pi
          let part (function : String) : Expression :=
            (Complex.real? function 0 angle).elim (.number 0) fun q =>
              multiplyNumbers size (calculated bits q)
          let real := if e.den = 2 then .number 0 else part "cos"
          let imaginary :=
            if e.den = 2 then
              multiplyNumbers size (.number (if e.floor % 2 = 0 then 1 else -1))
            else part "sin"
          sum [real, multiple imaginary (.constant .imaginary)]

def infinitePower (base exponent : Expression) : Expression :=
  let unchanged : Expression := .compound .power [base, exponent]
  let undefined : Expression := .constant .undefined
  if base = undefined ∨ exponent = undefined ∨ exponent = .constant .complexInfinity then undefined
  else
    match base, exponent with
    | .constant .infinity, .constant .infinity => base
    | .constant .negativeInfinity, .constant _ => undefined
    | .constant .complexInfinity, .constant _ => .number 0
    | .constant .euler, .constant .negativeInfinity => .number 0
    | base, .constant .infinity =>
        match base.magnitude? with
        | some b =>
            if b = 1 ∨ b = -1 then undefined
            else if 1 < b then exponent
            else if -1 < b then .number 0
            else .constant .complexInfinity
        | none => unchanged
    | .number b, .constant .negativeInfinity =>
        if b = 0 then .constant .complexInfinity
        else if 1 < b.abs then .number 0
        else if 0 < b ∧ b < 1 then .constant .infinity
        else undefined
    | .constant .complexInfinity, e =>
        if e.isNumber then if e.value < 0 then .number 0 else base else unchanged
    | .constant .infinity, e =>
        if e.isSurelyNegative then .number 0
        else if e.isPositive? = some true then base
        else unchanged
    | .constant .negativeInfinity, .number e =>
        if e < 0 then .number 0
        else
          let (total, roots) := turned (.constant .infinity) e []
          assembled total roots
    | _, _ => unchanged

/-- A sum of a real number and a real multiple of the imaginary unit. -/
def complexParts? : Expression → Option (Expression × Expression)
  | .compound .sum [a, b] =>
      match b.splitMultiple with
      | (c, .constant .imaginary) => if a.isNumber then some (a, c) else none
      | _ =>
          match a.splitMultiple with
          | (c, .constant .imaginary) => if b.isNumber then some (b, c) else none
          | _ => none
  | _ => none

/-- The number among the terms of a sum that is furthest from zero, if one of the
terms is an approximate multiple. -/
def scaleOf? (terms : List Expression) : Option Expression :=
  let numbers := terms.map fun e => e.asMultiple.1
  if numbers.any fun c => c.bits ≠ 0 then
    numbers.foldl (fun best c =>
      let size := if c.isNegativeNumber then c.minus else c
      match best with
      | none => some size
      | some b => if b.value ≤ size.value then some size else some b) none
  else none

/-- A term of a sum divided by a number. A term with this number keeps only its sign. -/
def shrunk (scale : Expression) (e : Expression) : Expression :=
  let (c, rest) := e.asMultiple
  let c :=
    if c.value = scale.value then .number 1
    else if c.value = -scale.value then .number (-1)
    else divideNumbers c scale
  if e.isNumber then c else multiple c rest

/-- The exponents of a power of a power multiply: the outer one is whole, or the inner
one lies between minus one and one, or the base is no negative number. -/
def isSafePower (base inner outer : Expression) : Bool :=
  outer.integer?.isSome ||
    (inner.isReal? = some true &&
      (inner.magnitude?.any (fun e => -1 < e && e < 1) || base.isNonnegative? = some true))

/-- What is left of the exponent of an exponential function when a logarithm is taken
away, if all other factors are real numbers: the argument of the logarithm and the other
factors. -/
def logarithmIn? (factors : List Expression) : Option (Expression × List Expression) :=
  let (logs, others) := factors.partition fun e =>
    match e with
    | .compound (.known "log") [_] => true
    | _ => false
  match logs with
  | [.compound (.known "log") [e]] =>
      if others.all fun e => e.isNumber || e.magnitude?.isSome then some (e, others) else none
  | _ => none

/-- The multiple of half a turn times the imaginary unit that an expression is. -/
def turnOf? (e : Expression) : Option Rat :=
  match e with
  | .compound .product [.number q, d, e] =>
      if [d, e] = [.constant .imaginary, .constant .pi] ∨
          [d, e] = [.constant .pi, .constant .imaginary] then some q
      else none
  | .compound .product [d, e] =>
      if [d, e] = [.constant .imaginary, .constant .pi] ∨
          [d, e] = [.constant .pi, .constant .imaginary] then some 1
      else none
  | _ => none

/-- The exponential function of a multiple of half a turn, if that is simple, or else
the multiple within a half turn to both sides. -/
def turnedUnit (q : Rat) : Expression :=
  let rest := q - 2 * (q / 2).floor
  if rest = 0 then .number 1
  else if rest = 1 then .number (-1)
  else if rest = 1 / 2 then .constant .imaginary
  else if rest = 3 / 2 then .compound .product [.number (-1), .constant .imaginary]
  else
    let near := if 1 < rest then rest - 2 else rest
    .compound (.known "exp") [.compound .product
      (stored [.number near, .constant .imaginary, .constant .pi])]

def zeroPower (exponent : Expression) : Expression :=
  if exponent.isPositive? = some true then .number 0
  else if exponent.isSurelyNegative then .constant .complexInfinity
  else .compound .power [.number 0, exponent]

/-- A number with the denominator two. -/
def isHalf : Expression → Bool
  | .number q => q.den = 2
  | _ => false

/-- The factors of an exponent without the inverse of the logarithm of a base, if they
have no other inverse among them. -/
def withoutLog? (base exponent : Expression) : Option (List Expression) :=
  let inverse : Expression :=
    .compound .power [.compound (.known "log") [base], .number (-1)]
  let others := exponent.factorsOf.erase inverse
  if exponent.factorsOf.contains inverse && others.all fun e => !e.splitPower.2.isNegative then
    some others
  else none

/-- The square root of half the size of a rational multiple of the imaginary unit, if it
is rational, and the sign of the multiple. -/
def imaginaryMultiple? : List Expression → Option (Rat × Rat)
  | [.leaf (.number q), .leaf (.constant .imaginary)] =>
      match exactRoot? 2 (q / 2).num.natAbs, exactRoot? 2 (q / 2).den with
      | some n, some d => some ((n : Rat) / d, if q < 0 then -1 else 1)
      | _, _ => none
  | _ => none

/-- A number and other factors in the order of keeping, as they are. -/
def bundled (total : Expression) (factors : List Expression) : Expression :=
  productFrom ((if total = .number 1 then [] else [total]) ++ stored factors)

def ofComplex (z : Rat × Rat) : Expression :=
  sum [.number z.1, scaled (.number z.2) (.constant .imaginary)]

mutual

/-- The product of expressions. The fuel bounds the number of nested products and
powers. -/
def productWithin : (fuel : Nat) → List Expression → Expression
  | 0, es => .compound .product es
  | fuel + 1, es =>
      let g := (es.flatMap factorsOf).foldl Gathering.add {}
      let powers := (joinPowers g.powers).map fun (base, exponent) =>
        powerWithin fuel base exponent
      let exponentials := (joinNumbers (joinPowers g.exponentials)).map fun (base, exponent) =>
        powerWithin fuel base exponent
      let raised := (powers ++ exponentials).flatMap factorsOf
      let (total, roots) := turned g.total g.turn g.roots
      assembled total (raised ++ roots)

def powerWithin : (fuel : Nat) → (base exponent : Expression) → Expression
  | 0, base, exponent => .compound .power [base, exponent]
  | fuel + 1, base, exponent =>
      let unchanged : Expression := .compound .power [base, exponent]
      if exponent = .number 0 then .number 1
      else if exponent = .number 1 then base
      else if base.isUnbounded || exponent.isUnbounded then infinitePower base exponent
      else if base = .number 1 then base
      else
        match withoutLog? base exponent, base, exponent with
        | some factors, _, _ => exponential fuel (productWithin fuel factors)
        | none, base, exponent =>
        match base, exponent with
        | .number b, .number e => rationalPower b e
        | .approximate x, e => if e.isNumber then approximatePower x e else unchanged
        | .number b, .approximate e =>
            if b = 0 then zeroPower exponent else approximatePower (.ofRat e.bits b) exponent
        | .number b, e => if b = 0 then zeroPower e else unchanged
        | .constant .imaginary, .number e => imaginaryPower e
        | .constant .euler, e => exponential fuel e
        | .compound (.known "exp") [a], e =>
            if e.integer?.isSome || a.isReal? = some true then
              exponential fuel (productWithin fuel [a, e])
            else unchanged
        | .compound .power [b, inner], outer =>
            let even := inner.integer?.any (· % 2 = 0) && b.isReal? = some true
            if isSafePower b inner outer then
              powerWithin fuel b (productWithin fuel [inner, outer])
            else if even then
              powerWithin fuel (.compound (.known "Abs") [b]) (productWithin fuel [inner, outer])
            else if inner = .number (-1) && outer.isHalf then
              match b.isNonnegative? with
              | some true => powerWithin fuel b outer.minus
              | some false =>
                  if b.isSurelyNegative then
                    productWithin fuel [powerWithin fuel (.number (-1)) outer,
                      powerWithin fuel b.minus (productWithin fuel [inner, outer])]
                  else powerWithin fuel b outer.minus
              | none => unchanged
            else unchanged
        | .compound .product factors, e =>
            if e.integer?.isSome then
              productWithin fuel (factors.map fun factor => powerWithin fuel factor e)
            else if e.isNumber then productPower fuel factors e
            else unchanged
        | .compound .sum terms, .number e =>
            match complexParts? (.compound .sum terms) with
            | some (.number a, .number b) =>
                if e = -1 then bundled (.number (1 / (a * a + b * b))) [ofComplex (a, -b)]
                else if e.den = 2 then complexRoot fuel (a, b) e.num unchanged
                else unchanged
            | _ =>
                if (e.num.natAbs = 1 ∧ e.den = 1) ∨ !terms.any isOpen then unchanged
                else sumPower fuel terms exponent
        | .compound .sum terms, .approximate _ =>
            if terms.any isOpen then sumPower fuel terms exponent else unchanged
        | _, _ => unchanged

/-- The exponential function. A logarithm in the exponent is undone, and so are terms
of the exponent with a simpler value. -/
def exponential : (fuel : Nat) → Expression → Expression
  | 0, e => .compound (.known "exp") [e]
  | fuel + 1, e =>
      let unchanged : Expression := .compound (.known "exp") [e]
      match e with
      | .number q => if q = 0 then .number 1 else if q = 1 then .constant .euler else unchanged
      | .approximate x =>
          if x.value = 0 then .number 1
          else ((Approximation.applied? "exp" x).map approximate).getD unchanged
      | .constant .infinity => e
      | .constant .negativeInfinity => .number 0
      | .constant .complexInfinity => .constant .undefined
      | .constant .undefined => e
      | .compound (.known "log") [a] => a
      | .compound .product factors =>
          match turnOf? e with
          | some q => turnedUnit q
          | none =>
              match logarithmIn? factors with
              | some (a, others) => powerWithin fuel a (productWithin fuel others)
              | none => unchanged
      | .compound .sum terms =>
          let values := terms.map fun term => (term, exponential fuel term)
          let isKept (value : Expression × Expression) : Bool :=
            match value.2 with
            | .compound (.known "exp") _ => true
            | _ => value.1 = .number 1
          let (kept, undone) := values.partition isKept
          let argument (value : Expression × Expression) : Expression :=
            match value.2 with
            | .compound (.known "exp") [a] => a
            | _ => value.1
          let changed := kept.any fun value => argument value ≠ value.1
          if undone.isEmpty && !changed then unchanged
          else
            let rest : Expression := sum (kept.map argument)
            productWithin fuel (undone.map Prod.snd ++
              [if rest = .number 0 then .number 1
              else if rest = .number 1 then .constant .euler
              else .compound (.known "exp") [rest]])
      | _ => unchanged

/-- The power of a product with an exponent that is a number and not whole. Factors that
are not negative have powers of their own, and so have the sizes of negative ones. -/
def productPower : (fuel : Nat) → List Expression → (exponent : Expression) → Expression
  | 0, factors, e => .compound .power [.compound .product factors, e]
  | fuel + 1, factors, e =>
      match (if e.isHalf then imaginaryMultiple? factors else none) with
      | some (root, sign) =>
          let whole := Expression.int e.value.num
          let unit := powerWithin fuel (ofComplex (1, sign)) whole
          let (total, rest) := unit.asMultiple
          bundled (multiplyNumbers (powerWithin fuel (.number root) whole) total) rest.factorsOf
      | none =>
          let units := factors.filter (· = .constant .imaginary)
          let others := factors.filter (· ≠ .constant .imaginary)
          let kind (e : Expression) : Option Bool := e.isNonnegative?
          let nonnegative := others.filter fun e => kind e = some true
          let negative := others.filter fun e => kind e = some false
          let unknown := others.filter (fun e => (kind e).isNone) ++ units
          let sizes (es : List Expression) : List Expression := es.map minus
          let (free, kept) : List Expression × List Expression :=
            match negative with
            | [] => ([], unknown)
            | [n] =>
                if unknown.isEmpty then ([], [n])
                else if n.isNumber && n ≠ .number (-1) then
                  ([n.minus], unknown ++ [.number (-1)])
                else ([], unknown ++ [n])
            | n :: rest =>
                let first := if unknown.isEmpty && n.isNumber then [n] else []
                let others := if unknown.isEmpty && n.isNumber then rest else n :: rest
                let sign : Rat := if others.length % 2 = 0 then 1 else -1
                let outside := productWithin fuel (.number sign :: first)
                (sizes others, unknown ++ (if outside = .number 1 then [] else [outside]))
          let separate := nonnegative ++ free
          if separate.isEmpty then .compound .power [.compound .product factors, e]
          else
            let inner := productWithin fuel kept
            productWithin fuel ((separate.map fun factor => powerWithin fuel factor e) ++
              (if kept.isEmpty then [] else [powerWithin fuel inner e]))

/-- The power of a complex number with half of a whole number as its exponent. -/
def complexRoot : (fuel : Nat) → (z : Rat × Rat) → (count : Int) → (unchanged : Expression) →
    Expression
  | 0, _, _, unchanged => unchanged
  | fuel + 1, (a, b), count, unchanged =>
      match rationalPower (a * a + b * b) (1 / 2) with
      | .number size =>
          let root := rationalPower ((size - a) / 2) (1 / 2)
          let unit := ((size + a) / b.abs, if b < 0 then -1 else 1)
          let power := ofComplex (Complex.natPower unit count.natAbs)
          productWithin fuel [powerWithin fuel root (.int count),
            if count < 0 then powerWithin fuel power (.number (-1)) else power]
      | _ => unchanged

/-- The power of a sum. The greatest of the numbers in it is taken out if one of them is
approximate. -/
def sumPower : (fuel : Nat) → (terms : List Expression) → (exponent : Expression) → Expression
  | 0, terms, e => .compound .power [.compound .sum terms, e]
  | fuel + 1, terms, e =>
      match scaleOf? terms with
      | some scale =>
          if scale.value = 1 ∨ scale.value = 0 then .compound .power [.compound .sum terms, e]
          else
            productWithin fuel [powerWithin fuel scale e,
              powerWithin fuel (sum (terms.map (shrunk scale))) e]
      | none => .compound .power [.compound .sum terms, e]

end

/-- A bound for the nesting of products and powers in a calculation. -/
def calculationFuel (es : List Expression) : Nat := 2 * weightAll es + 16

def product (es : List Expression) : Expression := productWithin (calculationFuel es) es

def power (base exponent : Expression) : Expression :=
  powerWithin (calculationFuel [base, exponent]) base exponent

/-- The quotient of two expressions. An infinite number keeps its sign when it is divided
by a number. -/
def quotient (d e : Expression) : Expression :=
  if d.isNumber && e.isNumber && !e.isZero then divideNumbers d e
  else if (d = .constant .infinity ∨ d = .constant .negativeInfinity) && e.isNumber then
    if e.isNegativeNumber then d.minus else d
  else
    let inverse := power e (.number (-1))
    if d = .number 1 then inverse else product [d, inverse]

end Clausal.Expression
