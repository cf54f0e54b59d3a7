import Clausal.Expression.Latex
import Clausal.Worksheet.Arity
import Clausal.Worksheet.Clause
import Clausal.Worksheet.Construction
import Clausal.Worksheet.Family
import Clausal.Worksheet.Term
import Clausal.Worksheet.Witness

/-!
# Applying operations

An operation takes the values of its arguments to a value. What it does depends
on their kinds, and there is a fault for every kind that it is not made for.
-/

namespace Clausal.Worksheet.Operation

/-- The result of an operation that takes formulas only. -/
def applyToFormula (op : Operation) (f : Formula) : Except Fault Value :=
  match op, f with
  | .lhs, .binary _ f _ => .ok (.formula f)
  | .lhs, .atom (.relation _ s _) => .ok (.ofTerm s)
  | .rhs, .binary _ _ g => .ok (.formula g)
  | .rhs, .atom (.relation _ _ t) => .ok (.ofTerm t)
  | .argument, .neg f => .ok (.formula f)
  | .argument, .quant _ _ f => .ok (.formula f)
  | .boundVariable, .quant _ x _ => .ok (.ofName x)
  | .terms, .atom a => .ok (.tuple (a.terms.map .ofTerm))
  | .operator, f => .ok (.operator f.operator)
  | .operands, f => .ok (.tuple (operandsOf f))
  | .depth, f => .ok (.ofNat f.depth)
  | .atoms, f => .ok (.list (f.atoms.map fun a => .formula (.atom a)))
  | .names, f => do
      let f ← f.withTerms
      .ok (.list (f.names.map .ofText))
  | .boundNames, f => .ok (.list (f.boundNames.map .ofName))
  | .matrix, f => .ok (.tuple [.formula f.matrix, .ofPrefix f.leading])
  | .withoutArrows, f => .ok (.formula f.withoutArrows)
  | .nnf negated, f => .ok (.formula (f.nnf negated))
  | .apart, f => do
      let f ← f.apart?
      .ok (.formula f)
  | .prenex, f => .ok (.tuple [.ofPrefix f.prenex.1, .formula f.prenex.2])
  | .cnf, f => do
      let f ← f.cnf?
      .ok (.formula f)
  | .dnf, f => do
      let f ← f.dnf?
      .ok (.formula f)
  | .clauses, f => do
      let clauses ← f.clauses?
      .ok (.list (clauses.map .ofClause))
  | .mathDisplay, f => do
      let f ← f.withTerms
      .ok (.ofText f.mathDisplay)
  | op, f => unfit op (.formula f)

/-- The function that brings a proposition into negation normal form. -/
def nnfFunction (e : Expression) : String := (nnfFunction? e.kind).getD "Boolean.to_nnf"

/-- The result of an operation on an expression that is no kind of expressions. -/
def applyToSingle (op : Operation) (e : Expression) : Except Fault Value :=
  match op, e with
  | .lhs, .compound (.comparison _) [d, _] => .ok (.expression d)
  | .rhs, .compound (.comparison _) [_, d] => .ok (.expression d)
  | .operands, e => .ok (.tuple (Value.ofExpressions e.parts))
  | .atoms, e => .ok (.list (Value.ofExpressions e.tips.eraseDups))
  | .mathDisplay, e =>
      if e.holdsLongInteger then .error (.failure .longInteger)
      else
        (e.latex?.mapError .misfit).map fun text =>
          .ofText ("$\\displaystyle " ++ text ++ "$")
  | .nnf negated, e =>
      if !e.isProposition then unfit op (.expression e)
      else if negated then .error (.unexpected (nnfFunction e) negatingArgument)
      else .ok (.expression e.nnf)
  | op, e => unfit op (.expression e)

def applyToExpression (op : Operation) (e : Expression) : Except Fault Value :=
  match familyOf? e with
  | some kind => op.applyToFamily kind e
  | none => op.applyToSingle e

/-- The result of an operation on a value that is neither a formula nor an
expression. -/
def applyToOther (op : Operation) (v : Value) : Except Fault Value :=
  match op, v with
  | .matrix, .skolem f _ _ => .error (.notApplied f.operator.label)
  | .universals, .skolem _ _ xs => .error (.notApplied (Value.list xs).kind)
  | .universals, .binders items => do
      let pairs ← items.mapM Value.pair
      .ok (.list (pairs.filterMap fun (o, x) =>
        match o with
        | .operator (.quantifier .all) => some x
        | _ => none))
  | op, v => unfit op v

/-- The result of an operation on one argument. -/
def applyOne (op : Operation) (v : Value) : Except Fault Value :=
  match op, v with
  | .variable, v => variableNamed v
  | .integer, v => integerOf v
  | .complement, v => Sign.complement v
  | .copy, .binders items => .ok (.binders [.binders items])
  | .copy, v => .ok v
  | .kinds, v => .ok (.list ((kindsOf v).map .ofBool))
  | .dual, v =>
      match (operatorOf v).bind Operator.dual? with
      | some o => .ok (.operator o)
      | none => unfit op v
  | .length, v => v.length
  | .isPositive, v => positivity v
  | .horn, v => do
      let clauses ← v.items
      let flags ← clauses.mapM isHorn
      .ok (.horn (.ofFlags flags))
  | .applicative, v => v.shown.map .ofText
  | .latex, v => v.latex.map .ofText
  | .display, v => v.latex.map .ofText
  | .clausesDisplay, v => v.clausesDisplay.map .ofText
  | .isVariable, v => .ok (.ofBool v.variableName?.isSome)
  | .isApplication, .expression (.app _ _) => .ok (.ofBool true)
  | .isApplication, _ => .ok (.ofBool false)
  | .isTerm, v => .ok (.ofBool v.isTerm)
  | .termName, .expression (.sym name) => .ok (.ofText name)
  | .termName, .expression (.app name _) => .ok (.ofText name)
  | .termName, v => v.refuse .notTerm
  | .termArguments, v => .ok (.tuple (argumentsOf v))
  | .termLatex, v => fromTerm (fun t => .ofText (t.write Style.latex.marks)) v
  | .termNames, v => fromTerm (fun t => .list (t.names.map .ofText)) v
  | op, .formula f => applyToFormula op f
  | .prenex, v => .error (.ruledOut v.className)
  | .cnf, v => v.refuse fun text => .failure (.notLiteralTree text)
  | .dnf, v => v.refuse fun text => .failure (.notLiteralTree text)
  | .clauses, v => v.refuse fun text => .failure (.notLiteral text)
  | op, .expression e => applyToExpression op e
  | op, v => applyToOther op v

/-- The result of an operation on two arguments. -/
def applyTwo (op : Operation) (v w : Value) : Except Fault Value :=
  match op, v, w with
  | .sign s, v, w => s.apply v w
  | .same, v, w => .ok (.ofBool (v.same w))
  | .literal, v, w => .ok (.literal v w)
  | .item, v, w => v.itemAt w
  | .entry, v, w => v.entry w
  | .pretty, v, w => (v.pretty w).map .ofText
  | .termText, v, w => writtenTerm v w
  | .prenexDisplay, v, w => (v.prenexDisplay w).map .ofText
  | .quantify, .formula f, w => quantifyBy (.formula f) w
  | .quantify, v, _ => unfit op v
  | .skolemize, v, .formula f => skolemizeBy v f
  | .skolemize, _, w => unfit op w
  | _, _, _ => inapplicable

/-- A value with its terms replaced. -/
def replaceIn (v : Value) (pairs : List Value) : Except Fault Value := do
  let table ← Table.ofPairs pairs
  match v with
  | .formula f => do
      let f ← table.inFormula f
      .ok (.formula f)
  | .expression e =>
      if (familyOf? e).isSome then applyToExpression .substitute e else table.inWhole e
  | v => unfit .substitute v

/-- The text that is made of values: of a value, and of the name of an encoding and of
a way to deal with errors. -/
def textOf : List Value → Except Fault Value
  | [] => .ok (.ofText "")
  | [v] => v.plainText.map .ofText
  | [v, encoding] => do
      textArgument "encoding" encoding
      .error (.notEncoded v.kind)
  | [v, encoding, errors] => do
      textArgument "encoding" encoding
      textArgument "errors" errors
      .error (.notEncoded v.kind)
  | args => .error (.surplusOfText args.length)
where
  /-- An argument with a name has to be a text. -/
  textArgument (name : String) : Value → Except Fault Unit
    | .scalar (.text _) => .ok ()
    | .scalar .null => .error (.notTextArgument name Scalar.null.shown)
    | v => .error (.notTextArgument name v.kind)

def applyCounted (op : Operation) (args : List Value) : Except Fault Value :=
  match op, args with
  | .application, name :: args => applyNamed name args
  | .predicate, name :: args => applyPredicate name args
  | .formula o, args => construct o args
  | .list, args => .ok (.list args)
  | .tuple, args => .ok (.tuple args)
  | .binders, args => .ok (.binders args)
  | .substitute, v :: pairs => replaceIn v pairs
  | .plainText, args => textOf args
  | .literal, [v] => .ok (.literal v (.ofBool false))
  | .termText, [v] => writtenTerm v (.ofText Term.Marks.spaced.separator)
  | op, [v] => applyOne op v
  | op, [v, w] => applyTwo op v w
  | _, _ => inapplicable

def apply (op : Operation) (args : List Value) : Except Fault Value :=
  match op.arity.fault? args.length with
  | some fault => .error fault
  | none => applyCounted op (op.arity.taken args)

end Clausal.Worksheet.Operation
