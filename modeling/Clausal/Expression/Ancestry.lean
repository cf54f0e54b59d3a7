import Clausal.Expression.Kind

/-!
# Wider kinds of expressions

Every kind of expressions belongs to wider kinds, and these to wider kinds again. A whole
number is a rational number, a number, an expression without parts and a quantity.
-/

namespace Clausal

/-- The wider kinds of quantities. -/
def quantityKinds : List String := ["Expr", "Basic"]

/-- The wider kinds of quantities without parts. -/
def atomicKinds : List String := "AtomicExpr" :: "Atom" :: quantityKinds

/-- The wider kinds of numbers. -/
def numberKinds : List String := "Number" :: atomicKinds

/-- The wider kinds of a constant. -/
def Constant.widerKinds : Constant → List String
  | .imaginary => atomicKinds
  | .complexInfinity => atomicKinds
  | .infinity => numberKinds
  | .negativeInfinity => numberKinds
  | .undefined => numberKinds
  | _ => "NumberSymbol" :: atomicKinds

/-- The known functions that have other wider kinds than functions. -/
def unusualKinds : List String :=
  ["Lambda", "Derivative", "Subs", "Integral", "Sum", "Product", "Limit", "Max", "Min"]

def propositionKinds : List String := ["Xor", "Equivalent", "ITE"]

/-- The kinds wider than that of a leaf. -/
def Leaf.widerKinds : Leaf → List String
  | .number q => (if q.den = 1 then ["Integer", "Rational"] else ["Rational"]) ++ numberKinds
  | .approximate _ => numberKinds
  | .truth _ => ["Basic"]
  | .constant c => c.widerKinds
  | .domain "Reals" => ["Interval", "Set", "Basic"]
  | .domain _ => ["Set", "Basic"]
  | .function _ => []
  | .functor _ => ["FunctionClass"]
  | .family _ => []
  | .nothing => []

/-- The kinds wider than that of an expression with a shape. -/
def Shape.widerKinds : Shape → List String
  | .tuple => ["Basic"]
  | .list => []
  | .set => ["Set", "Basic"]
  | .table => ["Basic"]
  | .and => ["Basic"]
  | .or => ["Basic"]
  | .not => ["Basic"]
  | .implies => ["Basic"]
  | .comparison _ => ["Relational", "Basic"]
  | .sum => quantityKinds
  | .product => quantityKinds
  | .power => quantityKinds
  | .known function =>
      if propositionKinds.contains function then ["Basic"]
      else if unusualKinds.contains function then quantityKinds
      else "Function" :: quantityKinds

namespace Expression

/-- The kinds wider than that of an expression. -/
def widerKinds : Expression → List String
  | .sym _ => atomicKinds
  | .app _ _ => "Function" :: quantityKinds
  | .leaf value => value.widerKinds
  | .compound shape _ => shape.widerKinds

/-- An expression is of a kind or of a kind that belongs to it. -/
def isOfKind (e : Expression) (kind : String) : Bool :=
  e.kind = kind || e.widerKinds.contains kind

end Expression

end Clausal
