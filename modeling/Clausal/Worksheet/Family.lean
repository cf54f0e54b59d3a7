import Clausal.Worksheet.Operation

/-!
# Kinds of expressions by themselves

A kind of expressions has the attributes of its expressions. Those that are computed
from an expression are things of their own, and the functions among them lack the
expression that they are about.
-/

namespace Clausal.Worksheet

/-- The kind that an expression is, if it is a kind. -/
def familyOf? : Expression → Option String
  | .leaf (.function name) => some name
  | .leaf (.family path) => some (bareName path)
  | _ => none

def relationKinds : List String :=
  ["Relational", "Equality", "Unequality", "StrictLessThan", "LessThan", "StrictGreaterThan",
    "GreaterThan"]

/-- The kinds of propositions that share a way into negation normal form. -/
def junctionKinds : List String := ["And", "Or", "Nand", "Nor", "Contains"]

/-- The kinds of propositions with a way of their own into negation normal form. -/
def connectiveKinds : List String := ["Not", "Implies", "Xor", "Equivalent", "ITE"]

/-- The kinds of other propositions. -/
def statementKinds : List String :=
  relationKinds ++ ["Symbol", "Dummy", "Wild", "AppliedPredicate"]

/-- The function that brings propositions of a kind into negation normal form. -/
def nnfFunction? (kind : String) : Option String :=
  if junctionKinds.contains kind then some "BooleanFunction.to_nnf"
  else if connectiveKinds.contains kind then some (kind ++ ".to_nnf")
  else if statementKinds.contains kind then some "Boolean.to_nnf"
  else none

def negatingArgument : String := "_not"

def Operation.applyToFamily (op : Operation) (kind : String) (e : Expression) :
    Except Fault Value :=
  let property : Value := .thing Operation.propertyKind
  match op with
  | .operands => .ok property
  | .lhs => if relationKinds.contains kind then .ok property else op.unfit (.expression e)
  | .rhs => if relationKinds.contains kind then .ok property else op.unfit (.expression e)
  | .atoms => .error (.missing "Basic.atoms" ["self"])
  | .mathDisplay => .error (.missing "Printable._repr_latex_" ["self"])
  | .substitute => .error .miscountedReplacements
  | .nnf negated =>
      match nnfFunction? kind with
      | none => op.unfit (.expression e)
      | some function =>
          .error (if negated then .unexpected function negatingArgument
            else .missing function ["self"])
  | op => op.unfit (.expression e)

end Clausal.Worksheet
