import Clausal.Expression.Basic

/-!
# Kinds of expressions

Every expression belongs to a kind, which messages name by its bare name or by
its full name. The kind of an application is its function symbol, and a number
that often occurs has a kind of its own.
-/

namespace Clausal

def Constant.label : Constant → String
  | .pi => "pi"
  | .euler => "E"
  | .imaginary => "I"
  | .infinity => "oo"
  | .negativeInfinity => "-oo"
  | .complexInfinity => "zoo"
  | .undefined => "nan"
  | .goldenRatio => "GoldenRatio"
  | .eulerGamma => "EulerGamma"
  | .catalan => "Catalan"
  | .tribonacci => "TribonacciConstant"

/-- The kind of a constant, which holds nothing else. -/
def Constant.kind : Constant → String
  | .pi => "Pi"
  | .euler => "Exp1"
  | .imaginary => "ImaginaryUnit"
  | .infinity => "Infinity"
  | .negativeInfinity => "NegativeInfinity"
  | .complexInfinity => "ComplexInfinity"
  | .undefined => "NaN"
  | .goldenRatio => "GoldenRatio"
  | .eulerGamma => "EulerGamma"
  | .catalan => "Catalan"
  | .tribonacci => "TribonacciConstant"

def Comparison.kind : Comparison → String
  | .eq => "Equality"
  | .ne => "Unequality"
  | .lt => "StrictLessThan"
  | .le => "LessThan"
  | .gt => "StrictGreaterThan"
  | .ge => "GreaterThan"

def numberKind (q : Rat) : String :=
  if q = 0 then "Zero"
  else if q = 1 then "One"
  else if q = -1 then "NegativeOne"
  else if q = 1 / 2 then "Half"
  else if q.den = 1 then "Integer"
  else "Rational"

def Leaf.kind : Leaf → String
  | .number q => numberKind q
  | .approximate _ => "Float"
  | .truth true => "BooleanTrue"
  | .truth false => "BooleanFalse"
  | .constant c => c.kind
  | .domain name => name
  | .function _ => "FunctionClass"
  | .functor _ => "UndefinedFunction"
  | .family _ => "type"
  | .nothing => "NoneType"

def Shape.kind : Shape → String
  | .tuple => "Tuple"
  | .list => "list"
  | .set => "FiniteSet"
  | .table => "Dict"
  | .and => "And"
  | .or => "Or"
  | .not => "Not"
  | .implies => "Implies"
  | .comparison c => c.kind
  | .sum => "Add"
  | .product => "Mul"
  | .power => "Pow"
  | .known function => function

/-- The place of the kind of a leaf. -/
def Leaf.region : Leaf → String
  | .number _ => "sympy.core.numbers."
  | .approximate _ => "sympy.core.numbers."
  | .truth _ => "sympy.logic.boolalg."
  | .constant _ => "sympy.core.numbers."
  | .domain "EmptySet" => "sympy.sets.sets."
  | .domain "UniversalSet" => "sympy.sets.sets."
  | .domain _ => "sympy.sets.fancysets."
  | .function _ => "sympy.core.function."
  | .functor _ => "sympy.core.function."
  | .family _ => ""
  | .nothing => ""

def familyName (path : String) : String := "<class '" ++ path ++ "'>"

/-- The full name of the kind of an expression with a shape. Kinds that are
functions have no other name than their own. -/
def Shape.className : Shape → String
  | .tuple => familyName "sympy.core.containers.Tuple"
  | .set => familyName "sympy.sets.sets.FiniteSet"
  | .table => familyName "sympy.core.containers.Dict"
  | .comparison c => familyName ("sympy.core.relational." ++ c.kind)
  | .sum => familyName "sympy.core.add.Add"
  | .product => familyName "sympy.core.mul.Mul"
  | .power => familyName "sympy.core.power.Pow"
  | .list => familyName "list"
  | .known "Lambda" => familyName "sympy.core.function.Lambda"
  | .known "Derivative" => familyName "sympy.core.function.Derivative"
  | .known "Subs" => familyName "sympy.core.function.Subs"
  | .known "Integral" => familyName "sympy.integrals.integrals.Integral"
  | .known "Sum" => familyName "sympy.concrete.summations.Sum"
  | .known "Product" => familyName "sympy.concrete.products.Product"
  | .known "Contains" => familyName "sympy.sets.contains.Contains"
  | .known "Limit" => familyName "sympy.series.limits.Limit"
  | .known "Interval" => familyName "sympy.sets.sets.Interval"
  | .known "Union" => familyName "sympy.sets.sets.Union"
  | .known "Range" => familyName "sympy.sets.fancysets.Range"
  | .known "ImmutableDenseMatrix" => familyName "sympy.matrices.immutable.ImmutableDenseMatrix"
  | .known "Poly" => familyName "sympy.polys.polytools.Poly"
  | .known "Order" => familyName "sympy.series.order.Order"
  | .known "Dummy" => familyName "sympy.core.symbol.Dummy"
  | .known "Wild" => familyName "sympy.core.symbol.Wild"
  | shape => shape.kind

namespace Expression

def kind : Expression → String
  | .sym _ => "Symbol"
  | .app name _ => name
  | .leaf value => value.kind
  | .compound shape _ => shape.kind

def className : Expression → String
  | .sym _ => familyName "sympy.core.symbol.Symbol"
  | .app name _ => name
  | .leaf value => familyName (value.region ++ value.kind)
  | .compound shape _ => shape.className

end Expression

end Clausal
