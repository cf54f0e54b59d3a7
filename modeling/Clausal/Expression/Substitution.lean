import Clausal.Expression.Construction
import Clausal.Expression.Logarithm

/-!
# Substitution

An expression is put in for another one wherever that one is a part in the sense of
arithmetic: some of the terms of a sum, a power of a power, or some powers among the
factors of a product. What does not match in this way is looked at part by part, and the
expressions around a part that changes are built anew.
-/

namespace Clausal.Expression

/-- The number and the other terms of a sum. -/
def splitTerms (e : Expression) : Expression × List Expression :=
  match e.termsOf with
  | first :: rest => if first.isNumeral then (first, rest) else (.number 0, first :: rest)
  | [] => (.number 0, [])

/-- All members of a list are members of a longer one without repetitions. -/
def areFewer (part whole : List Expression) : Bool :=
  part.length < whole.length && part.all whole.contains

/-- A sum with an expression in place of some of its terms, which are the terms of
another sum up to a number. The terms that stay are substituted by `inside`. -/
def substitutedSum? (inside : Expression → Option Expression) (old new e : Expression) :
    Option (Option Expression) :=
  let (total, terms) := splitTerms e
  let (oldTotal, oldTerms) := splitTerms old
  let opposed := oldTerms.map opposedTerm
  let isSame (others : List Expression) : Bool :=
    others.length = terms.length && others.all terms.contains
  let isRational (e : Expression) : Bool :=
    match e with
    | .number _ => true
    | _ => false
  let rest (others : List Expression) : Option (List Expression) :=
    (terms.filter fun term => !others.contains term).mapM inside
  let rational := isRational total && isRational oldTotal
  if rational && isSame oldTerms then some (some (sum [new, total, oldTotal.minus]))
  else if rational && isSame opposed then some (some (sum [new.minus, total, oldTotal]))
  else if !(rational || total = oldTotal) then none
  else if areFewer oldTerms terms then
    some ((rest oldTerms).map fun kept => sum (new :: total :: oldTotal.minus :: kept))
  else if areFewer opposed terms then
    some ((rest opposed).map fun kept => sum (new.minus :: total :: oldTotal :: kept))
  else none

/-- The factors of an expression without symbols, and those with symbols. -/
def splitOpen (e : Expression) : Expression × Expression :=
  match e with
  | .compound .product factors =>
      let (closed, others) := factors.partition fun factor => factor.symbols.isEmpty
      (product closed, product others)
  | e => if e.symbols.isEmpty then (e, .number 1) else (.number 1, e)

/-- The exponent to which a power is raised to give the power of the same base with other
factors in its exponent. It has to be whole unless powers of the base can be multiplied
freely. -/
def exponentOver? (base oldExponent : Expression) (parts oldParts : Expression × Expression) :
    Option Expression :=
  if parts.2 ≠ oldParts.2 then none
  else
    let ratio := parts.1.quotient oldParts.1
    let isFree :=
      (base.isPositive? = some true && oldExponent.isReal? = some true) ||
        (base.isNonnegative? = some true && oldExponent.isNonnegative? = some true)
    if ratio.integer?.isSome || isFree then some ratio else none

def powerParts? : Expression → Option (Expression × Expression)
  | .compound .power [base, exponent] => some (base, exponent)
  | .compound (.known "exp") [exponent] => some (.constant .euler, exponent)
  | _ => none

/-- A power with an expression in place of a power of the same base. The parts of the
exponent are substituted by `inside`. -/
def substitutedSameBase? (inside : Expression → Option Expression)
    (base exponent oldExponent new : Expression) : Option (Option Expression) :=
  match exponent with
  | .compound .sum terms =>
      match terms.mapM inside with
      | none => some none
      | some terms =>
          let found := terms.map fun term =>
            (term, exponentOver? base oldExponent (asMultiple term) (asMultiple oldExponent))
          let raised := found.filterMap fun pair => pair.2.map (power new)
          let rest := (found.filter fun pair => pair.2.isNone).map Prod.fst
          if raised.isEmpty then none
          else some (some (product (raised ++ [power base (sum rest)])))
  | exponent =>
      (exponentOver? base oldExponent exponent.splitOpen oldExponent.splitOpen).map fun ratio =>
        some (power new ratio)

/-- A power with an expression put in for another one. The exponent is substituted by
`inside`. -/
def substitutedPower? (inside : Expression → Option Expression)
    (base exponent old new : Expression) : Option (Option Expression) :=
  if old = base then some ((inside exponent).map (power new))
  else
    match powerParts? old with
    | none => none
    | some (oldBase, oldExponent) =>
        let ratio := if exponent = oldExponent then logTo base oldBase else .nothing
        if ratio.isNumber then some (some (power new ratio))
        else if base = oldBase then substitutedSameBase? inside base exponent oldExponent new
        else if oldBase = .constant .euler && base.isPositive? = some true &&
            exponent.isReal? = some true then
          (exponentOver? oldBase oldExponent (product [exponent, log base]).splitOpen
            oldExponent.splitOpen).map fun ratio => some (power new ratio)
        else none

def fractionParts (factors : List Expression) : List Expression × List Expression :=
  let sides := factors.map fun factor =>
    match factor, powerParts? factor with
    | .number q, _ =>
        (if q.num = 1 then [] else [.int q.num], if q.den = 1 then [] else [.int q.den])
    | _, some (base, exponent) =>
        if exponent = .number (-1) then ([], [base])
        else if exponent.isSurelyNegative then ([], [power base exponent.minus])
        else ([factor], [])
    | factor, none => ([factor], [])
  (sides.flatMap Prod.fst, sides.flatMap Prod.snd)

def rationalPart (factor : Expression) : Expression × Rat :=
  match powerParts? factor with
  | none => (factor, 1)
  | some (base, exponent) =>
      match exponent.asMultiple with
      | (.number q, rest) => (power base rest, q)
      | _ => (factor, 1)

/-- Powers with rational exponents with one more. -/
def addPart (part : Expression × Rat) : List (Expression × Rat) → List (Expression × Rat)
  | [] => [part]
  | (e, q) :: rest =>
      if e = part.1 then (e, q + part.2) :: rest else (e, q) :: addPart part rest

def rationalParts (e : Expression) : List (Expression × Rat) :=
  (e.factorsOf.map rationalPart).foldl (fun parts part => addPart part parts) []

def rejoinedPart (part : Expression × Rat) : Expression :=
  match powerParts? part.1 with
  | some (base, exponent) => power base (product [exponent, .number part.2])
  | none => power part.1 (.number part.2)

/-- How often one number goes into another one of its kind, up to what is left. -/
def wholeShare (p q : Rat) : Int :=
  if q.den % p.den = 0 ∨ p.den % q.den = 0 then
    let ratio := p / q
    if ratio < 0 then ratio.ceil else ratio.floor
  else 0

def multiplicityOf (p : Nat) (q : Rat) : Int :=
  let count (n : Nat) : Nat :=
    if p < 2 ∨ n = 0 then 0
    else ((List.range n.log2.succ).takeWhile fun k => n % Nat.pow p (k + 1) = 0).length
  (count q.num.natAbs : Int) - count q.den

/-- The number in front of a product with the powers of the number in front of another one
apart, if it holds some: the parts of the product, and what is left of the number. -/
def partsBesides (e old : Expression) : List (Expression × Rat) × Rat :=
  let parts := e.rationalParts
  match e.asMultiple.1, old.asMultiple.1 with
  | .number q, .number p =>
      let ratio := q / p
      let fits := q ≠ p && (q.den ≠ 1 || ratio.den = 1) && !(0 < q && ratio < 0) && p.abs ≠ 1 &&
        p.den = 1 && q ≠ 1
      if fits then
        let count := multiplicityOf p.num.natAbs q
        (addPart (.number p, count) (parts.filter fun part => part.1 ≠ .number q),
          q / p ^ count)
      else (parts, 1)
  | _, _ => (parts, 1)

/-- A product with an expression in place of some powers of its factors, which are the
factors of another product. The other parts are substituted by `inside`. -/
def substitutedFactors? (inside : Expression → Option Expression) (old new e : Expression) :
    Option (Option Expression) :=
  let startsClosed (e : Expression) : Bool := e.splitMultiple.1 ≠ .number 1
  if startsClosed old && !startsClosed e then none
  else
    let (parts, left) := partsBesides e old
    let oldParts := old.rationalParts
    let shares : List Int := oldParts.map fun (b, q) =>
      match parts.lookup b with
      | some p => if (p < 0) = (q < 0) then wholeShare p q else 0
      | none => 0
    match shares with
    | [] => none
    | first :: rest =>
        let times := rest.foldl min first
        if (first :: rest).any (· = 0) then none
        else
          let factors : Option (List Expression) := parts.mapM fun part =>
            match oldParts.lookup part.1 with
            | some q => some (rejoinedPart (part.1, part.2 - q * times))
            | none => (inside part.1).map fun e => rejoinedPart (e, part.2)
          some (factors.map fun factors =>
            product (.number left :: power new (.int times) :: factors))

/-- A junction with an expression in place of some of its operands, which are already
substituted. -/
def substitutedJunction (j : Junction) (old new : Expression) (operands : List Expression) :
    Expression :=
  match old with
  | .compound shape parts =>
      if shape = j.shape && parts.all operands.contains then
        joinAll j (new :: operands.filter fun e => !parts.contains e)
      else joinAll j operands
  | _ => joinAll j operands

/-- The expressions of a list, each substituted by `inside`, in an expression of a
shape. -/
def substitutedParts? (inside : Expression → Option Expression) (e : Expression) :
    Option Expression :=
  match e with
  | .app name args => (args.mapM inside).map fun args => .app name args
  | .compound shape parts => do
      let replaced ← parts.mapM inside
      if replaced = parts then some e else built? shape replaced
  | e => some e

/-- An expression with an expression put in for another one. The fuel bounds the depth. -/
def substituteWithin : (fuel : Nat) → (old new e : Expression) → Option Expression
  | 0, _, _, e => some e
  | fuel + 1, old, new, e =>
      let inside := substituteWithin fuel old new
      let byParts := substitutedParts? inside e
      if e = old then some new
      else
        match e, powerParts? e with
        | .compound .sum terms, _ =>
            match old with
            | .compound .sum _ => (substitutedSum? inside old new e).getD byParts
            | .constant .infinity =>
                if terms.contains (.constant .negativeInfinity) then
                  replace? (.constant .negativeInfinity) new.minus e
                else byParts
            | _ => byParts
        | .compound .product factors, _ =>
            match old with
            | .compound .product oldFactors =>
                match oldFactors, factors with
                | .number p :: _, .number q :: _ =>
                    if p < 0 && q < 0 then substituteWithin fuel old.minus new.minus e
                    else if p < 0 then byParts
                    else substituteProduct fuel old new factors byParts
                | .number p :: _, _ =>
                    if p < 0 then byParts else substituteProduct fuel old new factors byParts
                | _, _ => substituteProduct fuel old new factors byParts
            | _ => byParts
        | .compound .and parts, _ =>
            (parts.mapM inside).map (substitutedJunction .and old new)
        | .compound .or parts, _ =>
            (parts.mapM inside).map (substitutedJunction .or old new)
        | _, some (base, exponent) =>
            (substitutedPower? inside base exponent old new).getD byParts
        | _, none => byParts
where
  /-- A product with an expression put in for another product, first above and below the
  line. -/
  substituteProduct : (fuel : Nat) → (old new : Expression) → List Expression →
      Option Expression → Option Expression
    | 0, _, _, factors, _ => some (product factors)
    | fuel + 1, old, new, factors, byParts =>
        let inside := substituteWithin fuel old new
        let (above, below) := fractionParts factors
        if below.isEmpty then
          (substitutedFactors? inside old new (.compound .product factors)).getD byParts
        else do
          let n ← inside (productFrom above)
          let d ← inside (productFrom below)
          let parts := quotient n d
          match parts with
          | .compound .product _ =>
              let changed := parts ≠ .compound .product factors
              (substitutedFactors? inside old new parts).getD
                (if changed then some parts else byParts)
          | e => inside e

/-- An expression with an expression put in for another one. -/
def substitute? (old new e : Expression) : Option Expression :=
  substituteWithin (2 * e.weight + old.weight + 4) old new e

/-- The expressions that count as infinite or undefined. -/
def boundless : List Expression :=
  [.constant .undefined, .constant .infinity, .constant .negativeInfinity,
    .constant .complexInfinity]

/-- Pairs with those that put in something infinite or undefined at the front. -/
def boundlessFirst (pairs : List (Expression × Expression)) : List (Expression × Expression) :=
  let places := (List.range pairs.length).filter fun place =>
    (pairs[place]?).any fun pair => boundless.contains pair.2
  places.reverse.foldl (fun pairs place =>
    match pairs[place]? with
    | some pair => pair :: pairs.eraseIdx place
    | none => pairs) pairs

/-- An expression with several substitutions made one after the other, those for large
expressions first. -/
def substituteEach? (pairs : List (Expression × Expression)) (e : Expression) :
    Option Expression :=
  let pairs := pairs.filter fun (old, new) => old ≠ new
  let key (old : Expression) : Key := .row [.number (-(old.weight : Rat)), old.profile.key]
  let sorted := (pairs.map fun pair => (pair, key pair.1)).mergeSort fun s t =>
    s.2.precedes t.2
  (boundlessFirst (sorted.map Prod.fst)).foldlM (fun e (old, new) => substitute? old new e) e

end Clausal.Expression
