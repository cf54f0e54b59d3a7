import Clausal.Expression.Calculus

/-!
# Functions and operations by name

What a known name makes of expressions: the value of a known function, a derivative, an
integral, a sum, or values in branches.
-/

namespace Clausal.Expression

/-- The functions that stand for themselves whatever they are applied to. -/
def steadyFunctions : List String := ["factorial", "factorial2", "subfactorial"]

def applied? (name : String) (args : List Expression) : Option Expression :=
  match name, args with
  | "Piecewise", pairs => chosen? pairs
  | "Derivative", e :: symbols => derivation? false e symbols
  | "diff", e :: symbols => derivation? true e symbols
  | "expand", [e] => some (expanded e)
  | "Integral", e :: limits => ranged? "Integral" e limits
  | "Sum", e :: limits => ranged? "Sum" e limits
  | "Product", e :: limits => ranged? "Product" e limits
  | "Limit", [e, x, point] => some (limitOf e x point)
  | name, [e] =>
      if steadyFunctions.contains name && !e.isQuantity then some (stands name e)
      else known? name [e]
  | name, args => known? name args

end Clausal.Expression
