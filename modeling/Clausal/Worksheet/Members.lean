import Clausal.Expression.Known
import Clausal.Expression.Matrix
import Clausal.Expression.Membership
import Clausal.Expression.Trait
import Clausal.Worksheet.Collection
import Clausal.Worksheet.Wording

/-!
# Attributes of values

An expression has a name or parts, knows which symbols it is made of, and answers
questions about itself. What else could be done with an expression has a place
among its attributes too, but is no expression. All other names are no attributes.
-/

namespace Clausal.Worksheet

/-- The known expressions that are found as attributes of their register. -/
def registered : List (String × Expression) :=
  [("Zero", .number 0), ("One", .number 1), ("NegativeOne", .number (-1)),
    ("Half", .number (1 / 2)), ("Pi", .constant .pi), ("Exp1", .constant .euler),
    ("ImaginaryUnit", .constant .imaginary), ("Infinity", .constant .infinity),
    ("NegativeInfinity", .constant .negativeInfinity),
    ("ComplexInfinity", .constant .complexInfinity), ("NaN", .constant .undefined),
    ("GoldenRatio", .constant .goldenRatio), ("EulerGamma", .constant .eulerGamma),
    ("Catalan", .constant .catalan), ("TribonacciConstant", .constant .tribonacci),
    ("true", .truth true), ("false", .truth false), ("IdentityFunction", Known.identity)] ++
  Known.domains.map fun name => (name, .leaf (.domain name))

def registerClass : String := "sympy.core.singleton.SingletonRegistry"

def registeredAt (name : String) : Except Fault Value :=
  match registered.lookup name with
  | some e => .ok (.expression e)
  | none => .error (if name.startsWith "_" then .inapplicable else .notRegistered name)

/-- What can be done with every quantity. -/
def methods : List String :=
  ["adjoint", "apart", "args_cnc", "as_base_exp", "as_coeff_Add", "as_coeff_Mul", "as_coeff_add",
    "as_coeff_exponent", "as_coeff_mul", "as_coefficient", "as_coefficients_dict",
    "as_content_primitive", "as_dummy", "as_expr", "as_independent", "as_leading_term",
    "as_numer_denom", "as_ordered_factors", "as_ordered_terms", "as_poly", "as_powers_dict",
    "as_real_imag", "as_terms", "aseries", "atoms", "cancel", "coeff", "collect", "combsimp",
    "compare", "compute_leading_term", "conjugate", "copy", "could_extract_minus_sign", "count",
    "count_ops", "diff", "dir", "doit", "dummy_eq", "equals", "evalf", "expand",
    "extract_additively", "extract_branch_factor", "extract_multiplicatively", "factor", "find",
    "fourier_series", "fps", "gammasimp", "getO", "getn", "has", "has_free", "has_xfree",
    "integrate", "invert", "is_algebraic_expr", "is_constant", "is_hypergeometric",
    "is_meromorphic", "is_polynomial", "is_rational_function", "is_same", "leadterm", "limit",
    "lseries", "match", "matches", "n", "normal", "nseries", "nsimplify", "powsimp", "primitive",
    "radsimp", "ratsimp", "rcall", "refine", "removeO", "replace", "rewrite", "round", "separate",
    "series", "simplify", "sort_key", "subs", "taylor_term", "together", "transpose", "trigsimp",
    "xreplace"]

/-- What can be done with every proposition. -/
def propositionMethods : List String :=
  ["as_content_primitive", "as_dummy", "as_set", "atoms", "compare", "copy", "count", "count_ops",
    "doit", "dummy_eq", "equals", "find", "has", "has_free", "has_xfree", "is_same", "match",
    "matches", "rcall", "refine", "replace", "rewrite", "simplify", "sort_key", "subs",
    "to_anf", "to_cnf", "to_dnf", "to_nnf", "xreplace"]

def questions : List String :=
  ["algebraic", "antihermitian", "complex", "composite", "even", "extended_negative",
    "extended_nonnegative", "extended_nonpositive", "extended_nonzero", "extended_positive",
    "extended_real", "finite", "hermitian", "imaginary", "infinite", "integer", "irrational",
    "negative", "noninteger", "nonnegative", "nonpositive", "nonzero", "odd", "polar",
    "positive", "prime", "rational", "real", "transcendental", "zero"]

def families : List String :=
  ["number", "Number", "Float", "Rational", "Integer", "NumberSymbol", "comparable", "Symbol",
    "symbol", "Atom", "Function", "Add", "Mul", "Pow", "Dummy", "Wild", "Order", "Derivative",
    "Piecewise", "Poly", "AlgebraicNumber", "Relational", "Equality", "Boolean", "Not", "Matrix",
    "Vector", "Point", "MatAdd", "MatMul"]

/-- The rest of a text after its beginning. -/
def after? (beginning s : String) : Option String :=
  if s.startsWith beginning then some (String.ofList (s.toList.drop beginning.length)) else none

/-- The kind of an expression by itself, as far as it has a name. -/
def kindOf? (e : Expression) : Option Value :=
  match e with
  | .app name _ => some (.expression (.leaf (.functor name)))
  | .sym _ => family "Symbol"
  | .compound .and _ => function "And"
  | .compound .or _ => function "Or"
  | .compound .not _ => function "Not"
  | .compound .implies _ => function "Implies"
  | e => (family e.kind).or (if Known.functions.contains e.kind then function e.kind else none)
where
  family (name : String) : Option Value :=
    (Known.family? name).map fun path => .expression (.leaf (.family path))
  function (name : String) : Option Value := some (.expression (.leaf (.function name)))

def matrixPart? (name : String) (rows : List (List Expression)) : Option Value :=
  let width := (rows.headD []).length
  match name with
  | "T" => some (.expression (Expression.Matrix.ofRows (Expression.Matrix.transposed rows)))
  | "shape" => some (.tuple [.ofNat rows.length, .ofNat width])
  | "rows" => some (.ofNat rows.length)
  | "cols" => some (.ofNat width)
  | "is_square" => some (.ofBool (rows.length = width))
  | _ => none

def partOf? (name : String) (e : Expression) : Option Value :=
  match name, e with
  | "name", .sym s => some (.ofText s)
  | "name", .app s _ => some (.ofText s)
  | "lhs", .compound (.comparison _) [d, _] => some (.expression d)
  | "rhs", .compound (.comparison _) [_, d] => some (.expression d)
  | "rel_op", .compound (.comparison c) _ => some (.ofText c.sign)
  | "negated", .compound (.comparison c) parts =>
      some (.expression (.compound (.comparison (Expression.opposed c)) parts))
  | "reversed", .compound (.comparison c) [d, e] =>
      some (.expression (.compound (.comparison (Expression.mirrored c)) [e, d]))
  | "p", .number q => some (.scalar (.int q.num))
  | "q", .number q => some (.ofNat q.den)
  | "numerator", .number q => some (.scalar (.int q.num))
  | "denominator", .number q => some (.ofNat q.den)
  | "base", .compound .power [base, _] => some (.expression base)
  | "exp", .compound .power [_, exponent] => some (.expression exponent)
  | "signature", .compound (.known "Lambda") [names, _] => some (.expression names)
  | "variables", .compound (.known "Lambda") [names, _] =>
      some (.tuple (Value.ofExpressions names.symbols))
  | "bound_symbols", .compound (.known "Lambda") [names, _] =>
      some (.tuple (Value.ofExpressions names.symbols))
  | "expr", .compound (.known "Lambda") [_, result] => some (.expression result)
  | "expr", .compound (.known function) (e :: _) =>
      if ["Derivative", "Subs", "Integral", "Sum", "Product"].contains function then
        some (.expression e)
      else none
  | _, _ => none

/-- What is known about a symbol, or about an application. -/
def assumptions (e : Expression) : Value :=
  .record (if e.isSymbol then [("commutative", .ofBool true)] else [])

def answerOf? (name : String) (e : Expression) : Option Value :=
  match name, after? "is_" name with
  | "func", _ => kindOf? e
  | "__class__", _ => kindOf? e
  | "free_symbols", _ => some (.set (e.symbols.map .expression))
  | "assumptions0", _ => if e.isPlain then some (assumptions e) else none
  | "is_commutative", _ => if e.isQuantity then some (.ofBool true) else none
  | "is_scalar", _ => if e.isQuantity then some (.ofBool true) else none
  | _, some question =>
      if questions.contains question && e.isQuantity then
        some ((e.trait? question).elim (.scalar .null) .ofBool)
      else (e.familyTrait? question).map .ofBool
  | name, none =>
      match Expression.Matrix.rows? e, Expression.Span.ofExpression? e with
      | some rows, _ => matrixPart? name rows
      | none, some s => (s.part? name).map .ofExpression
      | none, none => partOf? name e

def matrixMethods : List String := ["det", "inv", "trace", "transpose", "tolist"]

namespace Value

def hasMethod (name : String) : Value → Bool
  | .scalar (.text _) => Wording.methods.contains name
  | .expression e =>
      (e.isQuantity && methods.contains name) ||
        (e.isProposition && propositionMethods.contains name) ||
        (e.isSet && Expression.setOperations.contains name) ||
        ((Expression.Matrix.rows? e).isSome && matrixMethods.contains name)
  | _ => false

def intervalMakers : List String := ["open", "Lopen", "Ropen"]

def isIntervalKind (e : Expression) : Bool :=
  match e with
  | .leaf (.family path) => bareName path = "Interval"
  | _ => false

def memberOfExpression (name : String) (e : Expression) : Except Fault Value :=
  match answerOf? name e with
  | some v => .ok v
  | none =>
      if isIntervalKind e && intervalMakers.contains name then
        .ok (.procedure ("Interval." ++ name) "method")
      else
      if ((after? "is_" name).any fun s => (questions ++ families).contains s) ||
          name.startsWith "__" then .error .inapplicable
      else (Value.expression e).lacks name

def memberOf (name : String) (v : Value) : Except Fault Value :=
  if v.hasMethod name || (Collection.methods v).contains name then .ok (.method v name)
  else
    match v with
    | .expression e =>
        if name = "args" then .ok (.tuple (ofExpressions e.parts)) else memberOfExpression name e
    | .procedure _ path =>
        if path = registerClass then registeredAt name else .error .inapplicable
    | .thing _ => .error .inapplicable
    | .method _ _ => .error .inapplicable
    | v => v.lacks name

end Value

end Clausal.Worksheet
