import Clausal.Expression.Marks

/-!
# Expressions for typesetting

Sums keep their signs, quotients are fractions, and roots stand under a root sign.
What binds less tightly than its surroundings stands in brackets that grow with it.

An expression in which the template of a function cannot be filled has no typeset form.
-/

namespace Clausal

namespace Expression

def latexNumber (q : Rat) : String :=
  if q.den = 1 then Int.repr q.num
  else
    (if q < 0 then "- " else "") ++ "\\frac\x7b" ++ Nat.repr q.num.natAbs ++ "\x7d\x7b" ++
      Nat.repr q.den ++ "\x7d"

/-- An approximate number for typesetting, with a power of ten in full. -/
def latexApproximate (x : Approximation) : String :=
  let cs := x.strippedText.toList
  let mantissa := cs.takeWhile (· ≠ 'e')
  match cs.drop mantissa.length with
  | _ :: power =>
      String.ofList mantissa ++ " \\cdot 10^\x7b" ++ String.ofList (power.filter (· ≠ '+')) ++
        "\x7d"
  | [] => String.ofList cs

def latexConstant : Constant → String
  | .pi => "\\pi"
  | .euler => "e"
  | .imaginary => "i"
  | .infinity => "\\infty"
  | .negativeInfinity => "-\\infty"
  | .complexInfinity => "\\tilde\x7b\\infty\x7d"
  | .undefined => "\\text\x7bNaN\x7d"
  | .goldenRatio => "\\phi"
  | .eulerGamma => "\\gamma"
  | .catalan => "G"
  | .tribonacci => "\\text\x7bTribonacciConstant\x7d"

def latexDomain : String → String
  | "EmptySet" => "\\emptyset"
  | "UniversalSet" => "\\mathbb\x7bU\x7d"
  | "Naturals" => "\\mathbb\x7bN\x7d"
  | "Naturals0" => "\\mathbb\x7bN\x7d_0"
  | "Integers" => "\\mathbb\x7bZ\x7d"
  | "Rationals" => "\\mathbb\x7bQ\x7d"
  | "Reals" => "\\mathbb\x7bR\x7d"
  | _ => "\\mathbb\x7bC\x7d"

def latexLeaf : Leaf → String
  | .number q => latexNumber q
  | .approximate x => latexApproximate x
  | .truth b => if b then "\\text\x7bTrue\x7d" else "\\text\x7bFalse\x7d"
  | .constant c => latexConstant c
  | .domain name => latexDomain name
  | .function name => Text.typesetFunction name
  | .functor name => Text.typesetFunction name
  | .family path => familyName path
  | .nothing => "\\text\x7bNone\x7d"

def latexComparison : Comparison → String
  | .eq => "="
  | .ne => "\\neq"
  | .lt => "<"
  | .le => "\\leq"
  | .gt => ">"
  | .ge => "\\geq"

/-- A proposition that is put into brackets as an operand. -/
def isJoined : Expression → Bool
  | .truth _ => true
  | .compound .and _ => true
  | .compound .or _ => true
  | .compound .implies _ => true
  | .compound (.known function) _ => connectives.contains function
  | _ => false

/-- A factor ends with a number, which braces may close. -/
def endsWithNumber (s : String) : Bool :=
  let braces := s.toList.reverse.dropWhile fun c => c = '\x7d' || c = ' '
  braces.head?.any Char.isDigit

def startsWithNumber (s : String) : Bool :=
  let cs := s.toList
  let digits (cs : List Char) : List Char := cs.takeWhile Char.isDigit
  let mark := "\\frac\x7b".toList
  if cs.head?.any Char.isDigit then true
  else if mark.isPrefixOf cs then
    let above := digits (cs.drop mark.length)
    let rest := (cs.drop mark.length).drop above.length
    let below := digits (rest.drop 2)
    !above.isEmpty && rest.take 2 = ['\x7d', '\x7b'] && !below.isEmpty &&
      (rest.drop (2 + below.length)).head? = some '\x7d'
  else false

/-- Factors with a sign between two numbers. -/
def joinFactors : List String → String
  | [] => ""
  | [e] => e
  | d :: e :: rest =>
      d ++ (if endsWithNumber d && startsWithNumber e then " \\cdot " else " ") ++
        joinFactors (e :: rest)

def latexTable : List String → List String
  | key :: value :: rest => (key ++ " : " ++ value) :: latexTable rest
  | _ => []

/-- The sides on which a factor stands when it is typeset. Only a negative number as an
exponent leads below the line. -/
def typesetSides (e : Expression) : List Side :=
  let isBelow (exponent : Expression) : Bool := exponent.magnitude?.any (· < 0)
  match e with
  | .compound .power [base, exponent] =>
      if !isBelow exponent then [⟨false, e, false⟩]
      else if exponent = .number (-1) then [⟨true, base, false⟩]
      else [⟨true, .compound .power [base, exponent.opposite], false⟩]
  | .compound (.known "exp") [exponent] =>
      if !isBelow exponent then [⟨false, e, false⟩]
      else if exponent = .number (-1) then [⟨true, .constant .euler, false⟩]
      else [⟨true, .compound (.known "exp") [exponent.opposite], false⟩]
  | e => sides e

def largeKinds : List String := ["Integral", "Sum", "Product"]

/-- The kinds of expressions that are raised in brackets. -/
def bracketedKinds : List String := ["Derivative", "Limit"] ++ largeKinds

/-- A derivative, with `write` for its parts. More than one symbol makes it a partial
derivative. -/
def typesetDerivative (write : Expression → String) (e : Expression)
    (symbols : List Expression) : String :=
  let sign := if 1 < e.symbols.length then "\\partial" else "d"
  let counts := symbols.filterMap fun pair =>
    match pair with
    | .compound .tuple [x, .leaf (.number n)] => some (x, n.num.toNat)
    | _ => none
  let order := counts.foldl (fun total count => total + count.2) 0
  let below := String.join (counts.reverse.map fun (x, n) =>
    raised (sign ++ " " ++ write x) (if n = 1 then none else some (Nat.repr n)))
  let above := raised sign (if order = 1 then none else some (Nat.repr order))
  let body := if e.level < productLevel || e.isNegative then grown (write e) else write e
  "\\frac\x7b" ++ above ++ "\x7d\x7b" ++ below ++ "\x7d " ++ body

def typesetIntegralSign (write : Expression → String) : Expression → String
  | .compound .tuple [_, low, high] =>
      "\\int\\limits_\x7b" ++ write low ++ "\x7d^\x7b" ++ write high ++ "\x7d"
  | .compound .tuple [_, high] => "\\int\\limits^\x7b" ++ write high ++ "\x7d"
  | _ => "\\int"

/-- The variable of a range. -/
def rangeVariable (limits : Expression) : Expression := limits.parts.headD limits

/-- An integral, with `write` for its parts. -/
def typesetIntegral (write : Expression → String) (e : Expression) (limits : List Expression) :
    String :=
  let bare := limits.length ≤ 4 && limits.all fun range => range.parts.length = 1
  let sign :=
    if bare then "\\i" ++ String.join (List.replicate (limits.length - 1) "i") ++ "nt"
    else String.join (limits.reverse.map (typesetIntegralSign write))
  let body := if e.level < productLevel || e.isNegative then grown (write e) else write e
  sign ++ " " ++ body ++ String.join (limits.map fun range =>
    "\\, d" ++ write (rangeVariable range))

/-- A sum or a product over ranges, with `write` for its parts. -/
def typesetRange (write : Expression → String) (sign : String) (e : Expression)
    (limits : List Expression) : String :=
  let below :=
    match limits with
    | [.compound .tuple [x, low, high]] =>
        "_\x7b" ++ write x ++ "=" ++ write low ++ "\x7d^\x7b" ++ write high ++ "\x7d "
    | limits =>
        "_\x7b\\substack\x7b" ++ "\\\\".intercalate (limits.map fun range =>
          match range.parts with
          | [x, low, high] => write low ++ " \\leq " ++ write x ++ " \\leq " ++ write high
          | parts => String.join (parts.map write)) ++ "\x7d\x7d "
  sign ++ below ++ (match e with
    | .compound .sum _ => grown (write e)
    | e => write e)

/-- A limit, with `write` for its parts. -/
def typesetLimit (write : Expression → String) (e x point side : Expression) : String :=
  let sided := point != .constant .infinity && point != .constant .negativeInfinity
  "\\lim_\x7b" ++ write x ++ " \\to " ++ write point ++ (if sided then "^" ++ write side else "") ++
    "\x7d" ++ (match e with
      | .compound .sum _ => grown (write e)
      | .compound .product _ => grown (write e)
      | e => " " ++ write e)

/-- Values in branches, with `write` for their parts. -/
def typesetBranches (write : Expression → String) (pairs : List Expression) : String :=
  let line (isLast : Bool) (pair : Expression) : String :=
    match pair with
    | .compound .tuple [value, condition] =>
        write value ++ (if isLast && condition = .truth true then " & \\text\x7botherwise\x7d"
          else " & \\text\x7bfor\x7d\\: " ++ write condition)
    | e => write e
  let lines := pairs.dropLast.map (line false) ++ (pairs.getLast?.map (line true)).toList
  "\\begin\x7bcases\x7d " ++ " \\\\".intercalate lines ++ " \\end\x7bcases\x7d"

/-- An expression with something put in afterwards, with `write` for its parts. -/
def typesetEvaluated (write : Expression → String) (e : Expression) (olds news : List Expression) :
    String :=
  "\\left. " ++ write e ++ " \\right|_\x7b\\substack\x7b " ++
    "\\\\ ".intercalate ((olds.zip news).map fun (old, new) => write old ++ "=" ++ write new) ++
    " \x7d\x7d"

/-- Numbers with the same distance. -/
def numbersFrom (first step : Rat) (count : Nat) : List Int :=
  (List.range count).map fun i => (first + step * (i : Nat)).num

/-- A set of numbers, of which only the first two and the last are shown if they are
many. -/
def typesetNumbers (numbers : List Int) : String :=
  let shown := numbers.map Int.repr
  let items :=
    if 4 < shown.length then shown.take 2 ++ ["\\ldots"] ++ shown.drop (shown.length - 1) else shown
  "\\left\\\x7b" ++ ", ".intercalate items ++ "\\right\\\x7d"

/-- An expression with a large sign or in branches, with `write` for its parts. -/
def typesetLarge? (write : Expression → String) : Expression → Option String
  | .compound (.known "Derivative") (e :: symbols) =>
      some (typesetDerivative write e symbols)
  | .compound (.known "Integral") (e :: limits) => some (typesetIntegral write e limits)
  | .compound (.known "Sum") (e :: limits) => some (typesetRange write "\\sum" e limits)
  | .compound (.known "Product") (e :: limits) => some (typesetRange write "\\prod" e limits)
  | .compound (.known "Limit") [e, x, point, side] => some (typesetLimit write e x point side)
  | .compound (.known "Piecewise") pairs => some (typesetBranches write pairs)
  | .compound (.known "Subs") [e, .compound .tuple olds, .compound .tuple news] =>
      some (typesetEvaluated write e olds news)
  | .compound (.known "Interval") [low, high, .truth lowOpen, .truth highOpen] =>
      some ("\\left" ++ (if lowOpen then "(" else "[") ++ write low ++ ", " ++ write high ++
        "\\right" ++ (if highOpen then ")" else "]"))
  | .compound (.known "Contains") [e, set] => some (write e ++ " \\in " ++ write set)
  | .compound (.known "Union") parts => some (" \\cup ".intercalate (parts.map write))
  | .compound (.known "ImmutableDenseMatrix") rows =>
      some ("\\left[\\begin\x7bmatrix\x7d" ++ "\\\\".intercalate (rows.map fun row =>
        " & ".intercalate (row.parts.map write)) ++ "\\end\x7bmatrix\x7d\\right]")
  | .compound (.known "Order") [e] => some ("O\\left(" ++ write e ++ "\\right)")
  | .compound (.known "Dummy") [x] => some (write x)
  | .compound (.known "Wild") [x] => some (write x)
  | .compound (.known "Poly") [.compound .tuple coefficients, x, .leaf (.domain domain)] =>
      some ("\\operatorname\x7bPoly\x7d\x7b\\left( " ++
        joinPolynomial (polynomialTerms write (fun n => "^\x7b" ++ Nat.repr n ++ "\x7d") " " x
          coefficients) ++ ", " ++ write x ++
        ", domain=\\mathbb\x7b" ++ String.ofList (domain.toList.take 1) ++ "\x7d \\right)\x7d")
  | .compound (.known "Range")
      [.leaf (.number first), .leaf (.number stop), .leaf (.number step)] =>
      some (typesetNumbers (numbersFrom first step ((stop - first) / step).ceil.toNat))
  | _ => none

/-- A factor that needs brackets unless it is the last one. -/
def isOpenEnded : Expression → Bool
  | .compound (.known kind) _ => largeKinds.contains kind
  | _ => false

/-- A factor that always needs brackets. -/
def isBranched : Expression → Bool
  | .compound (.known "Piecewise") _ => true
  | _ => false

mutual

/-- The rest of a division stands somewhere inside an expression. -/
def holdsRest : Expression → Bool
  | .compound (.known "Mod") _ => true
  | .compound _ parts => anyHoldsRest parts
  | .app _ args => anyHoldsRest args
  | _ => false

/-- The rest of a division stands somewhere inside the expressions of a list. -/
def anyHoldsRest : List Expression → Bool
  | [] => false
  | e :: es => holdsRest e || anyHoldsRest es

end

/-- An expression for typesetting. The fuel bounds the number of nested
expressions. -/
def latexWithin : (fuel : Nat) → Expression → String
  | 0, _ => ""
  | fuel + 1, e =>
      let write := latexWithin fuel
      let enclose (limit : Nat) (part : Expression) : String :=
        if part.level < limit then grown (write part) else write part
      let operand (part : Expression) : String :=
        if part.isJoined then grown (write part) else write part
      let named (name : String) (args : List Expression) : String :=
        "\\operatorname\x7b" ++ Text.typesetName name ++ "\x7d" ++
          grown (String.intercalate ", " (args.map write))
      let power (base : Expression) (exponent : String) : String :=
        match base with
        | .app name args => filledOr (typesetApplied name (some exponent) (args.map write))
        | .compound (.known name) args =>
            if bracketedKinds.contains name then raised (grown (write base)) (some exponent)
            else filledOr (typesetKnown write name args (some exponent))
        | .sym name => raisedName (Text.typesetName name) (some exponent)
        | .approximate x =>
            "\x7b" ++ latexLeaf (.approximate x) ++ "\x7d^\x7b" ++ exponent ++ "\x7d"
        | base => raised (if base.level ≤ powerLevel then grown (write base) else write base)
            (some exponent)
      match e with
      | .sym name => Text.typesetName name
      | .app name args => filledOr (typesetApplied name none (args.map write))
      | .leaf value => latexLeaf value
      | .compound .tuple parts =>
          "\\left( " ++ String.intercalate ", \\  " (parts.map write) ++
            (if parts.length = 1 then "," else "") ++ "\\right)"
      | .compound .list parts =>
          "\\left[ " ++ String.intercalate ", \\  " (parts.map write) ++ "\\right]"
      | .compound .set parts =>
          "\\left\\\x7b" ++ String.intercalate ", " ((ordered parts).map write) ++
            "\\right\\\x7d"
      | .compound .table parts =>
          "\\left\\\x7b " ++ String.intercalate ", \\  " (latexTable (parts.map write)) ++
            "\\right\\\x7d"
      | .compound .and parts => String.intercalate " \\wedge " ((ordered parts).map operand)
      | .compound .or parts => String.intercalate " \\vee " ((ordered parts).map operand)
      | .compound .implies parts => String.intercalate " \\Rightarrow " (parts.map operand)
      | .compound .not [.compound .implies parts] =>
          String.intercalate " \\not\\Rightarrow " (parts.map operand)
      | .compound .not [.compound (.known "Equivalent") parts] =>
          String.intercalate " \\not\\Leftrightarrow " ((ordered parts).map operand)
      | .compound (.known "Xor") parts =>
          String.intercalate " \\veebar " ((ordered parts).map operand)
      | .compound (.known "Equivalent") parts =>
          String.intercalate " \\Leftrightarrow " ((ordered parts).map operand)
      | .compound (.known "ITE") parts => named "ITE" parts
      | .compound .not parts => "\\neg " ++ String.join (parts.map operand)
      | .compound (.comparison c) parts =>
          String.intercalate (" " ++ latexComparison c ++ " ") (parts.map write)
      | .compound .sum parts =>
          match orderedTerms parts with
          | [] => ""
          | first :: rest =>
              let term (e : Expression) : String :=
                if holdsRest e then grown (write e) else write e
              term first ++ String.join (rest.map fun e =>
                if e.isNegative then " - " ++ term e.opposite else " + " ++ term e)
      | .compound .product _ =>
          let negative := e.isNegative
          let factors :=
            match (if negative then e.opposite else e) with
            | .compound .product parts => ordered parts
            | factor => [factor]
          let sides := factors.flatMap typesetSides
          let pick (below : Bool) : List Expression :=
            (sides.filter fun side => side.below == below).map Side.factor
          let text (es : List Expression) : String :=
            match es with
            | [] => "1"
            | [e] => write e
            | es => joinFactors (es.mapIdx fun i factor =>
                if holdsRest factor || isBranched factor ||
                    (isOpenEnded factor && i + 1 < es.length) then grown (write factor)
                else enclose productLevel factor)
          (if negative then "- " else "") ++
            (if (pick true).isEmpty then text (pick false)
            else "\\frac\x7b" ++ text (pick false) ++ "\x7d\x7b" ++ text (pick true) ++ "\x7d")
      | .compound .power [base, .leaf (.number q)] =>
          if q.num.natAbs = 1 ∧ 1 < q.den then
            let root := (if q.den = 2 then "\\sqrt" else "\\sqrt[" ++ Nat.repr q.den ++ "]") ++
              "\x7b" ++ write base ++ "\x7d"
            if q < 0 then "\\frac\x7b1\x7d\x7b" ++ root ++ "\x7d" else root
          else if q < 0 then
            "\\frac\x7b1\x7d\x7b" ++
              (if q = -1 then write base else write (.compound .power [base, .number (-q)])) ++
              "\x7d"
          else
            power base (latexNumber q)
      | .compound .power [base, exponent] => power base (write exponent)
      | .compound (.known "Lambda") [.compound .tuple [.sym "_x"], .sym "_x"] =>
          "\\left( x \\mapsto x \\right)"
      | .compound (.known "Lambda") [.compound .tuple names, e] =>
          let taken :=
            match names with
            | [name] => write name
            | names => write (.compound .tuple names)
          grown (" " ++ taken ++ " \\mapsto " ++ write e ++ " ")
      | e => (typesetLarge? write e).getD (filledOr (typesetKnown write e.kind e.parts none))

def latex (e : Expression) : String := latexWithin (e.weight + 2) e

/-- The operands of an expression in the order in which they are typeset. -/
def typesetOrder : Expression → List Expression
  | .compound .sum parts => orderedTerms parts
  | .compound .product parts =>
      let sides := (ordered parts).flatMap typesetSides
      (sides.filter fun side => !side.below).map Side.factor ++
        (sides.filter fun side => side.below).map Side.factor
  | .compound .set parts => ordered parts
  | .compound .and parts => ordered parts
  | .compound .or parts => ordered parts
  | e => e.parts

/-- What is wrong with the template of a function that is applied, with an exponent if there
is one. -/
def ownMisfit? (e : Expression) (exponent? : Option String) : Option Text.Misfit :=
  let filled :=
    match e with
    | .app name args => typesetApplied name exponent? (args.map latex)
    | .compound (.known name) args => typesetKnown latex name args exponent?
    | _ => .ok ""
  match filled with
  | .error m => some m
  | .ok _ => none

/-- An expression that is raised at its name. -/
def isRaisedAtName : Expression → Bool
  | .app _ _ => true
  | .compound (.known name) _ => !bracketedKinds.contains name
  | _ => false

/-- What is wrong with the first template in an expression that cannot be filled. An exponent
comes before what is raised. The fuel bounds the number of nested expressions. -/
def misfitWithin : (fuel : Nat) → Expression → Option Text.Misfit
  | 0, _ => none
  | fuel + 1, e =>
      let first (es : List Expression) : Option Text.Misfit := es.findSome? (misfitWithin fuel)
      let raisedMisfit (base : Expression) (exponent : String) : Option Text.Misfit :=
        if base.isRaisedAtName then (first base.typesetOrder).or (ownMisfit? base exponent)
        else first [base]
      match e with
      | .compound .power [base, .leaf (.number q)] =>
          if q.num.natAbs = 1 then first [base]
          else raisedMisfit base (latexNumber (if q < 0 then -q else q))
      | .compound .power [base, exponent] =>
          (first [exponent]).or (raisedMisfit base exponent.latex)
      | .app name args => (first args).or (ownMisfit? (.app name args) none)
      | e => first e.typesetOrder

/-- What is wrong with the first template in an expression that cannot be filled. -/
def misfit? (e : Expression) : Option Text.Misfit :=
  if e.latex.toList.contains '%' then misfitWithin (e.weight + 2) e else none

/-- An expression for typesetting, if all templates in it can be filled. -/
def latex? (e : Expression) : Except Text.Misfit String :=
  match e.misfit? with
  | some m => .error m
  | none => .ok e.latex

end Expression

end Clausal
