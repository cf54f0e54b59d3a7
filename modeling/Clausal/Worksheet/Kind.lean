import Clausal.Worksheet.Value

/-!
# Kinds of values

Operations check the kinds of their arguments, and the message about a value of
the wrong kind may name just the kind, or the class that the kind is the bare
name of.
-/

namespace Clausal

def Scalar.kind : Scalar → String
  | .null => "NoneType"
  | .truth _ => "bool"
  | .int _ => "int"
  | .floating _ => "float"
  | .text _ => "str"

namespace Worksheet

/-- The last part of a full name. -/
def bareName (path : String) : String :=
  String.ofList (path.toList.reverse.takeWhile (· ≠ '.')).reverse

namespace Value

/-- The kind of a value. Formulas are told apart by their operators and
applications by their function symbols. -/
def kind : Value → String
  | .scalar s => s.kind
  | .expression e => e.kind
  | .formula f => f.operator.label
  | .binders _ => "Prefix"
  | .literal _ _ => "Literal"
  | .operator _ => "type"
  | .skolem _ _ _ => "SkolemResult"
  | .horn _ => "HornReport"
  | .list _ => "list"
  | .tuple _ => "tuple"
  | .set _ => "set"
  | .record _ => "dict"
  | .thing path => bareName path
  | .procedure _ path => bareName path
  | .method (.expression _) _ => "method"
  | .method _ _ => "builtin_function_or_method"

/-- The class of a value, as a message gives it. -/
def className : Value → String
  | .expression e => e.className
  | .formula f => f.operator.qualified
  | .binders _ => familyName "folnf.firstorder.quantified.Prefix"
  | .literal _ _ => familyName "folnf.firstorder.clauses.Literal"
  | .horn _ => familyName "folnf.firstorder.clauses.HornReport"
  | .skolem _ _ _ => familyName "folnf.firstorder.skolem.SkolemResult"
  | .thing path => familyName path
  | .procedure _ path => familyName path
  | v => familyName v.kind

def owner : Value → Owner
  | .operator o => .operator o.label
  | .expression (.leaf (.function name)) => .operator name
  | .expression (.leaf (.family path)) => .operator (bareName path)
  | v => .value v.kind

/-- The fault that a value has no attribute of a name. -/
def lacks {α : Type} (name : String) (v : Value) : Except Fault α :=
  .error (.noAttribute v.owner name)

/-- The name of a variable. -/
def variableName? : Value → Option String
  | .expression (.sym name) => some name
  | _ => none

/-- The integer that a value is. A truth value counts as one or zero. -/
def integer? : Value → Option Int
  | .scalar (.int n) => some n
  | .scalar (.truth b) => some (if b then 1 else 0)
  | .expression e => e.integer?
  | _ => none

/-- Whether a value counts as something. A zero, a false truth value, an empty
text and an empty list count as nothing. -/
def holds : Value → Except Fault Bool
  | .scalar .null => .ok false
  | .scalar (.text s) => .ok (!s.isEmpty)
  | .scalar s => .ok (s.number? ≠ some 0)
  | .expression (.number q) => .ok (q ≠ 0)
  | .expression (.approximate x) => .ok (x.value ≠ 0)
  | .expression (.truth b) => .ok b
  | .expression (.compound (.comparison c) parts) =>
      .error (.naming .undecided (.compound (.comparison c) parts))
  | .expression (.compound .tuple parts) => .ok (!parts.isEmpty)
  | .expression (.compound .table parts) => .ok (!parts.isEmpty)
  | .binders items => .ok (!items.isEmpty)
  | .list items => .ok (!items.isEmpty)
  | .tuple items => .ok (!items.isEmpty)
  | .set items => .ok (!items.isEmpty)
  | .record fields => .ok (!fields.isEmpty)
  | _ => .ok true

end Value

end Worksheet

end Clausal
