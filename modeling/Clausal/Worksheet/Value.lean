import Clausal.Formula.Operator
import Clausal.NormalForms
import Clausal.Worksheet.Fault

/-!
# Values of a worksheet

A worksheet handles values of many kinds without knowing beforehand which: plain
values, expressions, formulas, what is computed from formulas, and lists of all
of them. Lists and tuples are different values with the same items. As values
are put together without being checked, a prefix may hold other items than
pairs, a literal may be made of other values than an atom and a truth value, and
the names of a Skolem form may be other values than variables.
-/

namespace Clausal.Worksheet

/-- A value of a worksheet. -/
inductive Value where
  | scalar (s : Scalar)
  | expression (e : Expression)
  | formula (f : Formula)
  | binders (items : List Value)
  | literal (atom negated : Value)
  | operator (o : Operator)
  | skolem (matrix : Formula) (mapping : List (Value × Expression)) (universals : List Value)
  | horn (r : HornReport)
  | list (items : List Value)
  | tuple (items : List Value)
  | set (items : List Value)
  | record (fields : List (String × Value))
  /-- Something without a place in a worksheet, with the full name of its
  class. -/
  | thing (path : String)
  /-- A known procedure or a known class of things, with the full name of its class. -/
  | procedure (name path : String)
  | method (owner : Value) (name : String)

namespace Value

instance : Inhabited Value := ⟨.scalar .null⟩

def ofBool (b : Bool) : Value := .scalar (.truth b)

def ofNat (n : Nat) : Value := .scalar (.int n)

def ofText (s : String) : Value := .scalar (.text s)

def ofName (name : String) : Value := .expression (.sym name)

/-- A quantifier with its variable, as a pair. -/
def ofBinder (b : Binder) : Value :=
  .tuple [.operator (.quantifier b.quantifier), .ofName b.name]

def ofPrefix (p : Prefix) : Value := .binders (p.map ofBinder)

def ofLiteral (l : Literal) : Value := .literal (.formula (.atom l.atom)) (.ofBool l.negated)

def ofClause (clause : Clause) : Value := .tuple (clause.map ofLiteral)

mutual

/-- The value that an expression is. Nothing and lists are values of other
kinds. -/
def ofExpression : Expression → Value
  | .leaf .nothing => .scalar .null
  | .compound .list parts => .list (ofExpressions parts)
  | e => .expression e

def ofExpressions : List Expression → List Value
  | [] => []
  | e :: es => ofExpression e :: ofExpressions es

end

def ofTerm (t : Term) : Value := ofExpression t.toExpression

end Value

end Clausal.Worksheet
