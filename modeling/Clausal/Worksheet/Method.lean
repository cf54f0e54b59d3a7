import Clausal.Expression.Performed
import Clausal.Worksheet.Conversion
import Clausal.Worksheet.Members

/-!
# What can be done with a value

A text, a value that holds others, and an expression have operations of their own. Their
arguments are converted to expressions where an expression is to be computed from them.
-/

namespace Clausal.Worksheet

namespace Method

def operand (meaning : Meaning) (v : Value) : Except Fault Expression := do
  let v ← v.converted meaning
  v.asPart

/-- The value that an expression or nothing is. -/
def given (e? : Option Expression) : Except Fault Value :=
  e?.elim (.error .inapplicable) fun e => .ok (.ofExpression e)

def tuple (es : List Expression) : Except Fault Value := .ok (.tuple (Value.ofExpressions es))

def listed (es : List Expression) : Except Fault Value := .ok (.list (Value.ofExpressions es))

/-- The parts of a sum, or of a product, that hold none of some expressions, and those that
do. -/
def separated (e : Expression) (parts : List Expression) : Expression × Expression :=
  let isFree (term : Expression) : Bool :=
    !parts.any fun part => Expression.holdsPart part term
  match e with
  | .compound .sum terms =>
      let (free, others) := terms.partition isFree
      (Expression.sum free, Expression.sum others)
  | e =>
      let (free, others) := e.factorsOf.partition isFree
      (Expression.product free, Expression.product others)

/-- An expression that is replaced. A text names a symbol. -/
def replaced (meaning : Meaning) : Value → Except Fault Expression
  | .scalar (.text s) => .ok (.sym s)
  | v => operand meaning v

def replacement (meaning : Meaning) (old new : Value) :
    Except Fault (Expression × Expression) := do
  let old ← replaced meaning old
  let new ← operand meaning new
  .ok (old, new)

/-- The pairs of a table, which holds its keys and values in turn. -/
def tablePairs : List Expression → List (Expression × Expression)
  | key :: v :: rest => (key, v) :: tablePairs rest
  | _ => []

/-- The pairs that replacements are made by. -/
def replacements (meaning : Meaning) : List Value → Except Fault (List (Expression × Expression))
  | [old, new] => (replacement meaning old new).map fun pair => [pair]
  | [.record fields] => fields.mapM fun (key, v) => replacement meaning (.ofText key) v
  | [.expression (.compound .table parts)] => .ok (tablePairs parts)
  | [v] => do
      let items ← v.items
      items.mapM fun item => do
        let (old, new) ← item.pair
        replacement meaning old new
  | _ => .error .miscountedReplacements

/-- The expression without the values of other expressions in it, and these. -/
def exactly (pairs : List (Expression × Expression)) (e : Expression) : Option Expression :=
  pairs.foldlM (fun e (old, new) => Expression.replace? old new e) e

/-- Two quantities are equal if their difference is known. -/
def areEqual? (d e : Expression) : Option Bool :=
  if d = e then some true
  else
    match Expression.expanded (Expression.difference d e) with
    | .number q => some (q = 0)
    | rest =>
        if rest.isOpen then none
        else rest.magnitude?.map fun q => q.abs < Expression.negligible

def ofParts? (name : String) (e : Expression) : Option (Except Fault Value) :=
  match name with
  | "as_expr" => some (.ok (.expression e))
  | "copy" => some (.ok (.expression e))
  | "removeO" => some (.ok (.expression e.withoutOrders))
  | "getO" => some (.ok ((e.termsOf.find? Expression.isOrder).elim (.scalar .null) .expression))
  | "atoms" => some (.ok (.set (e.tips.eraseDups.map .expression)))
  | "as_ordered_terms" => some (listed (Expression.orderedTerms e.termsOf))
  | "as_ordered_factors" => some (listed (Expression.ordered e.factorsOf))
  | "args_cnc" => some (.ok (.list [.list (Value.ofExpressions e.factorsOf), .list []]))
  | "as_coefficients_dict" =>
      some (.ok (.expression (Value.tableOf (e.termsOf.map fun term =>
        let (c, rest) := term.asMultiple
        (rest, c)))))
  | "as_powers_dict" =>
      some (.ok (.expression (Value.tableOf (e.factorsOf.map Expression.splitPower))))
  | "as_numer_denom" =>
      let (above, below) := e.overOne
      some (tuple [above, below])
  | "as_base_exp" =>
      some (match e with
        | .compound .power [base, exponent] => tuple [base, exponent]
        | e => tuple [e, .number 1])
  | "as_real_imag" => some (tuple [Expression.partOf false e, Expression.partOf true e])
  | "as_coeff_Mul" =>
      let (c, rest) := e.asMultiple
      some (tuple [c, rest])
  | "as_coeff_mul" =>
      let (totals, factors) := e.factorsOf.partition Expression.isNumber
      some (tuple [Expression.product totals, .compound .tuple factors])
  | "as_coeff_Add" =>
      let (totals, terms) := e.termsOf.partition Expression.isNumber
      some (tuple [Expression.sum totals, Expression.sum terms])
  | "as_coeff_add" =>
      let (totals, terms) := e.termsOf.partition Expression.isNumber
      some (tuple [Expression.sum totals, .compound .tuple terms])
  | "is_constant" => some (.ok (.ofBool e.symbols.isEmpty))
  | "could_extract_minus_sign" => some (.ok (.ofBool e.hasMinus))
  | _ => none

/-- The fault of the symbols of a derivative, from one place on. -/
def variableFault? (isFirst : Bool) : List Expression → Option Fault
  | [] => none
  | x :: rest =>
      let x := varied x
      match x.integer? with
      | some n => if isFirst then some (.countFirst n) else variableFault? false rest
      | none =>
          if Expression.isVariable x then variableFault? false rest
          else some (.naming .notVaried x)
where
  varied : Expression → Expression
    | .compound .tuple (x :: _) => x
    | x => x

def derivationFault? (e : Expression) (symbols : List Expression) : Option Fault :=
  if symbols.isEmpty && e.isOpen && e.symbols.length ≠ 1 then
    some (.naming (.noVariables (1 < e.symbols.length)) e)
  else variableFault? true symbols

def ofMatrix (rows : List (List Expression)) (name : String) : Except Fault Value :=
  match name with
  | "det" => .ok (.ofExpression (Expression.Matrix.determinant rows.length rows))
  | "inv" => given (Expression.Matrix.inverted? rows)
  | "trace" => .ok (.ofExpression (Expression.Matrix.trace rows))
  | "transpose" =>
      .ok (.ofExpression (Expression.Matrix.ofRows (Expression.Matrix.transposed rows)))
  | "tolist" => .ok (.list (rows.map fun row => .list (Value.ofExpressions row)))
  | _ => .error .inapplicable

def ofExpression (meaning : Meaning) (e : Expression) (name : String) (args : List Value) :
    Except Fault Value :=
  match name, args, (if args.isEmpty then ofParts? name e else none) with
  | _, _, some result => result
  | "subs", args, none => do
      let pairs ← replacements meaning args
      given (e.substituteEach? pairs)
  | "xreplace", [v], none => do
      let pairs ← replacements meaning [v]
      given (exactly pairs e)
  | "replace", [old, new], none => do
      let pair ← replacement meaning old new
      given (exactly [pair] e)
  | "has", args, none => do
      let parts ← args.mapM (operand meaning)
      .ok (.ofBool (parts.any fun part => Expression.holdsPart part e))
  | "as_independent", args, none => do
      let parts ← args.mapM (operand meaning)
      let (free, others) := separated e parts
      tuple [free, others]
  | "count", [v], none => do
      let part ← operand meaning v
      .ok (.ofNat (occurrences part e))
  | "equals", [v], none => do
      let other ← operand meaning v
      (areEqual? e other).elim (.error .inapplicable) fun b => .ok (.ofBool b)
  | "count_ops", [], none => .ok (.ofNat e.operations)
  | "round", args, none => do
      let places ← args.mapM (operand meaning)
      if e.isOpen then .error .notRounded else given (Expression.ownPerformed? name e places)
  | "diff", args, none => do
      let symbols ← args.mapM (operand meaning)
      match derivationFault? e symbols with
      | some fault => .error fault
      | none => given (Expression.ownPerformed? "diff" e symbols)
  | name, args, none => do
      let args ← args.mapM (operand meaning)
      if e.isSet then given (Expression.ofSets? name (e :: args))
      else given (Expression.ownPerformed? name e args)
where
  occurrences (part e : Expression) : Nat :=
    if part.parts.isEmpty then (e.tips.filter (· = part)).length
    else if part = e then 1 else 0

def applied (meaning : Meaning) (owner : Value) (name : String) (args : Arguments) :
    Except Fault Value :=
  match owner, args.byName with
  | .scalar (.text s), [] => Wording.applied s name args.inOrder
  | .expression e, [] =>
      if (Collection.methods owner).contains name then Collection.applied owner name args.inOrder
      else
        match Expression.Matrix.rows? e, args.inOrder with
        | some rows, [] => ofMatrix rows name
        | _, inOrder => ofExpression meaning e name inOrder
  | owner, [] => Collection.applied owner name args.inOrder
  | _, _ => .error .inapplicable

end Method

end Clausal.Worksheet
