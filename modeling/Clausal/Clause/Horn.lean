import Clausal.Clause.Basic

/-!
# Horn clauses

A clause is Horn when at most one of its literals is positive. A report names
the clauses of a list that are not.
-/

namespace Clausal

/-- At most one literal of the clause is positive. Repeated literals count. -/
def Clause.isHorn (clause : Clause) : Bool := clause.countP Literal.isPositive ≤ 1

/-- Whether all clauses are Horn, and the numbers of those that are not, counted
from one on. -/
structure HornReport where
  isHorn : Bool
  violating : List Nat
  deriving DecidableEq

namespace HornReport

/-- The numbers of the clauses that are not Horn, counted from a number on. It is
given for every clause whether it is Horn. -/
def violations : (number : Nat) → List Bool → List Nat
  | _, [] => []
  | number, horn :: rest =>
      if horn then violations (number + 1) rest else number :: violations (number + 1) rest

/-- The report on clauses of which it is given whether they are Horn. -/
def ofFlags (flags : List Bool) : HornReport :=
  let violating := violations 1 flags
  ⟨violating.isEmpty, violating⟩

def ofClauses (clauses : List Clause) : HornReport := ofFlags (clauses.map Clause.isHorn)

def applicative (r : HornReport) : String :=
  "HornReport(is_horn=" ++ (if r.isHorn then "True" else "False") ++ ", violating_indices=[" ++
    String.intercalate ", " (r.violating.map Nat.repr) ++ "])"

end HornReport

end Clausal
