import Clausal.Formula.Display

/-!
# Clauses

A matrix in conjunctive normal form is a list of clauses, and a clause a list of
literals. Both lists keep the order of the matrix from left to right.
-/

namespace Clausal

/-- An atom or a negated atom. An inequation counts as positive unless it is
negated. -/
structure Literal where
  atom : Atom
  negated : Bool
  deriving DecidableEq

/-- A disjunction of literals. -/
abbrev Clause := List Literal

namespace Literal

/-- A literal without a negation. -/
def isPositive (l : Literal) : Bool := !l.negated

def toFormula (l : Literal) : Formula :=
  if l.negated then .neg (.atom l.atom) else .atom l.atom

def relationSign : Relation → String
  | .eq => "="
  | .ne => "≠"

/-- The atom of a literal, written without spaces. Relations stand in
brackets. -/
def atomText (l : Literal) : String :=
  match l.atom with
  | .pred name args => (Atom.pred name args).write .tight relationSign
  | .relation r lhs rhs => "(" ++ (Atom.relation r lhs rhs).write .tight relationSign ++ ")"

/-- A literal with one character for the negation. -/
def text (l : Literal) : String := if l.negated then "~" ++ l.atomText else l.atomText

def latex (l : Literal) : String := if l.negated then "\\lnot " ++ l.atomText else l.atomText

def applicative (l : Literal) : String :=
  "Literal(atom=" ++ l.atom.applicative ++ ", negated=" ++
    (if l.negated then "True" else "False") ++ ")"

end Literal

namespace Formula

/-- The literals under the disjunctions at the top of a formula. The leftmost
part that is neither a literal nor a disjunction is the error. -/
def literals : Formula → Except Formula Clause
  | .binary (.junction .or) f g => do
      let left ← f.literals
      let right ← g.literals
      .ok (left ++ right)
  | .neg (.atom a) => .ok [⟨a, true⟩]
  | .atom a => .ok [⟨a, false⟩]
  | f => .error f

def clauses : Formula → Except Formula (List Clause)
  | .binary (.junction .and) f g => do
      let left ← f.clauses
      let right ← g.clauses
      .ok (left ++ right)
  | f => do
      let clause ← f.literals
      .ok [clause]

end Formula

/-- The literals of a clause after its number, for typesetting. -/
def displayLine (number : Nat) (literals : List String) : String :=
  Nat.repr number ++ ".\\;\\\x7b " ++ String.intercalate " \\lor " literals ++ " \\\x7d"

def displayLines : (number : Nat) → List (List String) → List String
  | _, [] => []
  | number, clause :: rest => displayLine number clause :: displayLines (number + 1) rest

/-- Clauses, given by the texts of their literals, as lines numbered from one
on. -/
def displayTexts (clauses : List (List String)) : String :=
  String.intercalate " \\\\ " (displayLines 1 clauses)

def displayClauses (clauses : List Clause) : String :=
  displayTexts (clauses.map (·.map Literal.latex))

end Clausal
