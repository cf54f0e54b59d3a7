import Clausal.Worksheet.Evaluation

/-!
# Terms on a worksheet

A function symbol is applied to values, which are checked on the way. What is
computed from a term fails at the leftmost part of it that is
no term of the logic.
-/

namespace Clausal.Worksheet

/-- A function symbol applied to arguments. Its name is checked before them. -/
def applyNamed : Value → List Value → Except Fault Value
  | .scalar (.text name), args => (applyFunction name args).map .expression
  | _, _ => .error .notFunctionName

/-- A value computed from a term without foreign values. -/
def fromTerm (compute : Term → Value) (v : Value) : Except Fault Value :=
  match v with
  | .expression e => do
      let t := Term.ofExpression e
      requireNoForeign t.foreignValues
      .ok (compute t)
  | v => v.refuse .notTerm

def joinAttribute : String := "join"

/-- The text of a term with a separator between arguments. The separator is
looked at only when there is an application. -/
def writtenTerm (v separator : Value) : Except Fault Value :=
  match separator, v with
  | .scalar (.text separator), v => fromTerm (fun t => .ofText (t.write ⟨"(", separator, ")"⟩)) v
  | separator, .expression (.app _ _) => separator.lacks joinAttribute
  | _, v => fromTerm (fun t => .ofText t.text) v

end Clausal.Worksheet
