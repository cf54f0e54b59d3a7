import Clausal.Worksheet.Application
import Clausal.Worksheet.Result

/-!
# Running a worksheet

A worksheet is a list of steps. Each step is an expression, and an expression
may refer to the values of earlier steps. The first fault ends a step but not the
worksheet. A step keeps its value even when the value cannot be handed out.
-/

namespace Clausal.Worksheet

/-- An expression: a text that is read as a formula, a value, the value of an
earlier step, or an operation on the values of expressions. -/
inductive Expr where
  | text (s : String)
  | value (v : Value)
  | ref (step : Nat)
  | apply (op : Operation) (args : List Expr)

mutual

/-- The value of an expression after steps with the given values. Arguments are
evaluated from left to right. -/
def Expr.eval (history : List (Option Value)) : Expr → Except Fault Value
  | .text s =>
      match Formula.parse s with
      | .ok f => .ok (.formula f)
      | .error e => .error (.failure (.unreadable e))
  | .value v => .ok v
  | .ref step =>
      match history[step]? with
      | some (some v) => .ok v
      | _ => .error (.stepFailed step)
  | .apply op args => do
      let args ← Expr.evalAll history args
      op.apply args

def Expr.evalAll (history : List (Option Value)) : List Expr → Except Fault (List Value)
  | [] => .ok []
  | e :: es => do
      let v ← e.eval history
      let vs ← Expr.evalAll history es
      .ok (v :: vs)

end

/-- The results of the steps that follow steps with the given values. -/
def runAfter (history : List (Option Value)) : List Expr → List (Except Fault Shown)
  | [] => []
  | step :: steps =>
      let value := step.eval history
      (value.bind Value.result) :: runAfter (history ++ [value.toOption]) steps

/-- The results of the steps of a worksheet. -/
def run (steps : List Expr) : List (Except Fault Shown) := runAfter [] steps

end Clausal.Worksheet
