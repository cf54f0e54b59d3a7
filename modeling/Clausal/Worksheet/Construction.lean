import Clausal.Worksheet.Naming

/-!
# Building formulas and taking them apart

The constructors of formulas are the operators. Each of them counts its arguments
first, then checks them in a fixed order and names the first that does not fit.
-/

namespace Clausal.Worksheet

/-- The items of a list of variables, if the value is such a list. -/
def variableItems? : Value → Option (List Value)
  | .list items => some items
  | .tuple items => some items
  | .binders items => some items
  | _ => none

/-- The variables that a quantifier is to bind: one variable, or a list that
starts with one. A list that does not is refused as a whole, and so is every
other value; of the items that are no variables the last one is refused. -/
def boundNames (v : Value) : Except Fault (List String) :=
  match v.variableName?, variableItems? v with
  | some name, _ => .ok [name]
  | none, some (first :: rest) =>
      match first.variableName? with
      | none => v.refuse .notVariable
      | some name =>
          match rest.reverse.find? (·.variableName?.isNone) with
          | some item => item.refuse .notVariable
          | none => .ok (name :: rest.filterMap Value.variableName?)
  | none, _ => v.refuse .notVariable

/-- A quantified formula. Its scope is checked before its variables. -/
def quantified (q : Quantifier) (vars scope : Value) : Except Fault Value := do
  let scope ← scope.formula?
  let names ← boundNames vars
  .ok (.formula (.quantAll q names scope))

/-- Applies a predicate. Its name is checked before its arguments. -/
def applyPredicate (name : Value) (args : List Value) : Except Fault Value :=
  match name with
  | .scalar (.text name) => do
      let args ← args.mapM Value.term?
      .ok (.formula (.atom (.pred name args)))
  | name => name.refuse .notPredicate

/-- The function that checks the arguments of a predicate. -/
def argumentCheck : String := "folnf.firstorder.atomic._check_terms"

def spreadPredicate (name args : Value) : Except Fault Value :=
  match name, args.items? with
  | .scalar (.text _), none => .error (.notSpread argumentCheck args.kind)
  | name, items => applyPredicate name (items.getD [])

/-- Joins two formulas. -/
def join (c : Connective) (v w : Value) : Except Fault Value := do
  let f ← v.formula?
  let g ← w.formula?
  .ok (.formula (.binary c f g))

/-- Relates two terms. -/
def relate (r : Relation) (v w : Value) : Except Fault Value := do
  let s ← v.term?
  let t ← w.term?
  .ok (.formula (.atom (.relation r s t)))

/-- The function behind an operator, and the names of its arguments. -/
def signature : Operator → String × List String
  | .quantifier _ => ("QuantifiedFormula.__init__", ["vars_", "arg"])
  | .connective _ => ("BinaryFormula.__init__", ["lhs", "rhs"])
  | .neg => ("Not.__init__", ["arg"])
  | .predicate => ("Pred.__init__", ["name", "terms"])
  | .relation _ => ("BinaryRelation.__init__", ["lhs", "rhs"])

/-- The fault of a wrong number of arguments. What is built counts as one of
them. -/
def miscounted (o : Operator) (given : Nat) : Fault :=
  let (function, names) := signature o
  if given < names.length then .missing function (names.drop given)
  else .surplus function (names.length + 1) (given + 1)

/-- Applies an operator to values. -/
def construct (o : Operator) (args : List Value) : Except Fault Value :=
  match o, args with
  | .quantifier q, [vars, scope] => quantified q vars scope
  | .connective c, [v, w] => join c v w
  | .neg, [v] => v.formula?.map fun f => .formula (.neg f)
  | .predicate, [name, args] => spreadPredicate name args
  | .relation r, [v, w] => relate r v w
  | o, args => .error (miscounted o args.length)

/-- A value with the operators of a list of pairs in front of it, the last one
innermost. -/
def quantifyBy (v p : Value) : Except Fault Value := do
  let pairs ← p.reversed
  pairs.foldlM (fun scope pair => do
    match ← pair.pair with
    | (.operator o, bound) => construct o [bound, scope]
    | (v, _) => .error (.notApplied v.kind)) v

/-- The operands of the operator of a formula, in order. -/
def operandsOf : Formula → List Value
  | .atom (.pred name args) => [.ofText name, .tuple (args.map .ofTerm)]
  | .atom (.relation _ s t) => [.ofTerm s, .ofTerm t]
  | .neg f => [.formula f]
  | .binary _ f g => [.formula f, .formula g]
  | .quant _ x f => [.ofName x, .formula f]

/-- The kinds of a value: atomic, literal, Boolean, quantified. -/
def kindsOf : Value → List Bool
  | .formula f => [f.isAtomic, f.isLiteral, f.isBoolean, f.isQuantified]
  | _ => [false, false, false, false]

/-- The operator of a formula, or the value itself if it is an operator. -/
def operatorOf : Value → Option Operator
  | .formula f => some f.operator
  | .operator o => some o
  | _ => none

/-- The arguments of an application; other values have none. -/
def argumentsOf : Value → List Value
  | .expression (.app _ args) => Value.ofExpressions args
  | _ => []

end Clausal.Worksheet
