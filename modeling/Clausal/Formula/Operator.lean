import Clausal.Formula.Display

/-!
# Operators

The operator at the top of a formula, taken by itself: a quantifier, a
connective, a negation, or what makes an atom.
-/

namespace Clausal

/-- What stands at the top of a formula. -/
inductive Operator where
  | quantifier (q : Quantifier)
  | connective (c : Connective)
  | neg
  | predicate
  | relation (r : Relation)
  deriving DecidableEq

def Operator.label : Operator → String
  | .quantifier q => q.label
  | .connective c => c.label
  | .neg => "Not"
  | .predicate => "Pred"
  | .relation r => r.label

def Operator.family : Operator → String
  | .quantifier _ => "quantified"
  | .connective _ => "boolean"
  | .neg => "boolean"
  | .predicate => "atomic"
  | .relation _ => "atomic"

def Operator.path (o : Operator) : String := "folnf.firstorder." ++ o.family ++ "." ++ o.label

def Operator.qualified (o : Operator) : String := "<class '" ++ o.path ++ "'>"

/-- The dual of an operator. Quantifiers and junctions have one. -/
def Operator.dual? : Operator → Option Operator
  | .quantifier q => some (.quantifier q.dual)
  | .connective (.junction j) => some (.connective (.junction j.dual))
  | _ => none

/-- The operator at the top of a formula. -/
def Formula.operator : Formula → Operator
  | .atom (.pred _ _) => .predicate
  | .atom (.relation r _ _) => .relation r
  | .neg _ => .neg
  | .binary c _ _ => .connective c
  | .quant q _ _ => .quantifier q

end Clausal
