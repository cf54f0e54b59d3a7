import Clausal.Expression.Substitution
import Clausal.Worksheet.Evaluation

/-!
# Replacing terms by values

A table of pairs tells which terms of a formula are replaced and by what. Terms
are looked up from the outside to the inside, and what is put in is not looked at
again. A value may take the place of a term that is an argument of an atom only
if it is a term; inside an application, it is converted as every argument is.

The first value of a pair may be any value that can be looked up, but only an
expression or what it stands for is ever found.

In an expression by itself all values of a table are expressions, and the
replacements are made one after the other.
-/

namespace Clausal.Worksheet

namespace Value

mutual

/-- The kind for which a value cannot be looked up, if there is one. -/
def lookupObstacle? : Value → Option String
  | .list items => some (list items).kind
  | .binders items => some (binders items).kind
  | .skolem f ps xs => some (skolem f ps xs).kind
  | .horn r => some (horn r).kind
  | .record fields => some (record fields).kind
  | .expression e => if holdsList e then some (Value.list []).kind else none
  | .literal atom negated =>
      match atom.lookupObstacle? with
      | some kind => some kind
      | none => negated.lookupObstacle?
  | .tuple items => lookupObstacleIn? items
  | _ => none

/-- The first such kind in a list. -/
def lookupObstacleIn? : List Value → Option String
  | [] => none
  | item :: items =>
      match item.lookupObstacle? with
      | some kind => some kind
      | none => lookupObstacleIn? items

end

def entry (key value : Value) : Except Fault Value :=
  match key.lookupObstacle? with
  | some kind => .error (.notKey kind)
  | none => .ok (.tuple [key, value])

/-- The expressions of a list of values that are all expressions. -/
def expressions? (vs : List Value) : Option (List Expression) :=
  vs.mapM fun v =>
    match v with
    | .expression e => some e
    | _ => none

end Value

/-- Values for values. No two pairs have the same first value. -/
abbrev Table := List (Value × Value)

namespace Table

/-- The table with a value for a key, in the place of an earlier one. -/
def put (key value : Value) : Table → Table
  | [] => [(key, value)]
  | (k, v) :: rest => if k.same key then (k, value) :: rest else (k, v) :: put key value rest

def valueFor? (table : Table) (e : Expression) : Option Value :=
  (table.find? fun (key, _) => key.sameAs e).map Prod.snd

/-- The table without a value for a variable. -/
def erase (table : Table) (name : String) : Table :=
  table.filter fun (key, _) => !key.sameAs (.sym name)

/-- The table of a list of pairs. -/
def ofPairs (pairs : List Value) : Except Fault Table :=
  pairs.foldlM (fun table v => do
    let (key, value) ← v.pair
    .ok (put key value table)) []

/-- An expression of a shape made of values. -/
def rebuilt (shape : Shape) (parts : List Value) : Except Fault Value :=
  match shape with
  | .tuple => (Value.tuple parts).converted meaning
  | shape =>
      match (Value.expressions? parts).bind (Expression.built? shape) with
      | some e => .ok (.expression e)
      | none => .error .inapplicable

mutual

/-- What takes the place of an expression. -/
def inExpression (table : Table) (e : Expression) : Except Fault Value :=
  match table.valueFor? e with
  | some v => .ok v
  | none =>
      match e with
      | .app name args => do
          let values ← inExpressions table args
          if Value.expressions? values = some args then .ok (.expression (.app name args))
          else (applyFunction name values).map .expression
      | .compound shape parts => do
          let values ← inExpressions table parts
          if Value.expressions? values = some parts then
            .ok (.ofExpression (.compound shape parts))
          else rebuilt shape values
      | e => .ok (.ofExpression e)

/-- What takes the places of the expressions of a list. -/
def inExpressions (table : Table) : List Expression → Except Fault (List Value)
  | [] => .ok []
  | e :: es => do
      let v ← inExpression table e
      let vs ← inExpressions table es
      .ok (v :: vs)

end

/-- An atom with its terms replaced. All terms are replaced before the first one
is checked. -/
def inAtom (table : Table) : Atom → Except Fault Atom
  | .pred name args => do
      let values ← table.inExpressions (Term.toExpressions args)
      let terms ← values.mapM Value.term?
      .ok (.pred name terms)
  | .relation r s t => do
      let v ← table.inExpression s.toExpression
      let w ← table.inExpression t.toExpression
      let s ← v.term?
      let t ← w.term?
      .ok (.relation r s t)

/-- A formula with its terms replaced, except for bound variables. -/
def inFormula (table : Table) : Formula → Except Fault Formula
  | .atom a => do
      let a ← table.inAtom a
      .ok (.atom a)
  | .neg f => do
      let f ← inFormula table f
      .ok (.neg f)
  | .binary c f g => do
      let f ← inFormula table f
      let g ← inFormula table g
      .ok (.binary c f g)
  | .quant q x f => do
      let f ← inFormula (table.erase x) f
      .ok (.quant q x f)

/-- A value other than a text as an expression that is replaced or put in. -/
def replacing (v : Value) : Except Fault Expression := do
  match v with
  | .operator _ => .error (.notArgument v.className)
  | .scalar .null => v.refuse .notReplaced
  | .scalar _ => v.converted meaning >>= expression
  | .expression _ => v.converted meaning >>= expression
  | .tuple _ => v.converted meaning >>= expression
  | .record _ => v.converted meaning >>= expression
  | v => v.refuse .notReplaced
where
  expression : Value → Except Fault Expression
    | .expression e => .ok e
    | _ => .error .inapplicable

/-- An expression to be replaced. A text names a symbol. -/
def replaced : Value → Except Fault Expression
  | .scalar (.text s) => .ok (.sym s)
  | v => replacing v

/-- The pairs of a table as expressions. Of pairs for one expression the last
counts. -/
def expressionPairs (table : Table) : Except Fault (List (Expression × Expression)) :=
  table.foldlM (fun pairs (key, value) => do
    let old ← replaced key
    let new ← replacing value
    .ok ((pairs.filter fun pair => pair.1 ≠ old) ++ [(old, new)])) []

/-- An expression with its parts replaced. -/
def inWhole (table : Table) (e : Expression) : Except Fault Value := do
  let pairs ← table.expressionPairs
  match e.substituteEach? pairs with
  | some e => .ok (.expression e)
  | none => .error .inapplicable

end Table

end Clausal.Worksheet
