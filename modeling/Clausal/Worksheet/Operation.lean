import Clausal.Worksheet.Display
import Clausal.Worksheet.Sign

/-!
# Operations of a worksheet

Everything that a step can do with the values of its arguments. Many operations
ask for an attribute of a formula, and fail for a value that lacks it.
-/

namespace Clausal.Worksheet

/-- The operations, with the parts of theirs that are not computed. -/
inductive Operation where
  -- Building values.
  | variable
  | integer
  | application
  | predicate
  | formula (o : Operator)
  | sign (s : Sign)
  | complement
  | list
  | tuple
  | binders
  | literal
  | copy
  -- Comparing values and taking them apart.
  | same
  | lhs
  | rhs
  | argument
  | boundVariable
  | operator
  | operands
  | terms
  | dual
  | kinds
  | isPositive
  | item
  | length
  -- Measuring and collecting.
  | depth
  | atoms
  | names
  | boundNames
  | universals
  -- Transforming formulas.
  | matrix
  | quantify
  | entry
  | substitute
  | withoutArrows
  | nnf (negated : Bool)
  | apart
  | prenex
  | cnf
  | dnf
  | skolemize
  | clauses
  | horn
  -- Writing values.
  | plainText
  | applicative
  | latex
  | display
  | mathDisplay
  | prenexDisplay
  | clausesDisplay
  | pretty
  -- Looking at terms.
  | isVariable
  | isApplication
  | isTerm
  | termName
  | termArguments
  | termText
  | termLatex
  | termNames

namespace Operation

def attribute? : Operation → Option String
  | .lhs => some "lhs"
  | .rhs => some "rhs"
  | .argument => some "arg"
  | .boundVariable => some "var"
  | .operator => some "op"
  | .operands => some "args"
  | .terms => some "terms"
  | .depth => some "depth"
  | .atoms => some "atoms"
  | .names => some "names"
  | .boundNames => some "qvars"
  | .matrix => some "matrix"
  | .quantify => some "quantify"
  | .substitute => some "subs"
  | .withoutArrows => some "eliminate_imp_iff"
  | .nnf _ => some "to_nnf"
  | .apart => some "names"
  | .skolemize => some "names"
  | .mathDisplay => some "_repr_latex_"
  | .dual => some "dual"
  | .universals => some "universals"
  | _ => none

/-- The fault of an operation that gives no value for the values it got. -/
def inapplicable : Except Fault Value := .error .inapplicable

def isAtomOperator : Operator → Bool
  | .predicate => true
  | .relation _ => true
  | _ => false

/-- The formulas with an operator have an attribute that is no function. -/
def isProperty (op : Operation) (o : Operator) : Bool :=
  match op, o with
  | .operator, _ => true
  | .operands, _ => true
  | .lhs, .connective _ => true
  | .lhs, .relation _ => true
  | .rhs, .connective _ => true
  | .rhs, .relation _ => true
  | .argument, .neg => true
  | .argument, .quantifier _ => true
  | .boundVariable, .quantifier _ => true
  | .terms, o => isAtomOperator o
  | _, _ => false

/-- The function behind an attribute of the formulas with an operator, and the
argument of it that is missing when it is taken from the operator. -/
def function? (op : Operation) (o : Operator) : Option (String × String) :=
  let owner := if isAtomOperator o then "AtomicFormula." else "Formula."
  match op with
  | .atoms => some (owner ++ "atoms", "self")
  | .substitute => some (owner ++ "subs", "substitution")
  | .quantify => some ("Formula.quantify", "prefix")
  | .depth => some ("Formula.depth", "self")
  | .names => some ("Formula.names", "self")
  | .apart => some ("Formula.names", "self")
  | .skolemize => some ("Formula.names", "self")
  | .boundNames => some ("Formula.qvars", "self")
  | .matrix => some ("Formula.matrix", "self")
  | .withoutArrows => some ("Formula.eliminate_imp_iff", "self")
  | .nnf _ => some ("Formula.to_nnf", "self")
  | .mathDisplay => some ("Formula._repr_latex_", "self")
  | _ => none

/-- The kind of what an attribute that is computed from a value is by itself. -/
def propertyKind : String := "property"

/-- The result of an operation on an operator by itself. It has the attributes of
its formulas, but without a formula these have no value. -/
def unfitOperator (op : Operation) (o : Operator) : Except Fault Value :=
  match op.function? o, op.attribute? with
  | some (function, name), _ => .error (.missing function [name])
  | none, some name =>
      if op.isProperty o then .ok (.thing propertyKind) else (Value.operator o).lacks name
  | none, none => inapplicable

/-- The fault of an operation on a value that it is not made for. -/
def unfit (op : Operation) (v : Value) : Except Fault Value :=
  match v, op.attribute? with
  | .operator o, _ => op.unfitOperator o
  | v, some name => v.lacks name
  | _, none => inapplicable

end Operation

end Clausal.Worksheet
