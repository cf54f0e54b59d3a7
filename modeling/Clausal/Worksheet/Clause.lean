import Clausal.Expression.Arithmetic
import Clausal.Worksheet.Family
import Clausal.Worksheet.Sequence

/-!
# Clauses on a worksheet

A clause is any value with items. A literal counts by its sign, and so does a
number; other expressions are neither positive nor not, and cannot be counted.
-/

namespace Clausal.Worksheet

/-- The name of the attribute that a literal has. -/
def positiveAttribute : String := "is_positive"

/-- How much a value counts in a clause: one for a positive literal, and one for
what is positive otherwise. -/
def countOf : Value → Except Fault Nat
  | .literal _ negated => do
      let negative ← negated.holds
      .ok (if negative then 0 else 1)
  | .expression e =>
      if (familyOf? e).isSome then
        .error (.notJoined "+" (Scalar.int 0).kind Operation.propertyKind)
      else
        match e.isPositive? with
        | some b => .ok (if b then 1 else 0)
        | none => .error (.notJoined "+" (Scalar.int 0).kind Scalar.null.kind)
  | v => v.lacks positiveAttribute

/-- A clause is Horn when at most one of its literals is positive. -/
def isHorn (clause : Value) : Except Fault Bool := do
  let literals ← clause.items
  let counts ← literals.mapM countOf
  .ok (counts.foldr (· + ·) 0 ≤ 1)

def positivity : Value → Except Fault Value
  | .literal _ negated => do
      let negative ← negated.holds
      .ok (.ofBool !negative)
  | .expression e =>
      if (familyOf? e).isSome then .ok (.thing Operation.propertyKind)
      else .ok ((e.isPositive?.map .ofBool).getD (.scalar .null))
  | v => v.lacks positiveAttribute

end Clausal.Worksheet
