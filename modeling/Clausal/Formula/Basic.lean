import Clausal.Term

/-!
# Formulas

First-order formulas with equality. Connectives are factored by what they
share: conjunction and disjunction are the two junctions, which are dual to each
other as the two quantifiers are. Every binary connective has exactly two
operands, and chains are never rearranged.
-/

namespace Clausal

/-- The two binary relations whose meaning is fixed. An inequation is a relation
of its own and not the same formula as a negated equation. -/
inductive Relation where
  | eq
  | ne
  deriving DecidableEq

/-- The two quantifiers. -/
inductive Quantifier where
  | all
  | ex
  deriving DecidableEq

/-- Conjunction and disjunction. -/
inductive Junction where
  | and
  | or
  deriving DecidableEq

/-- The binary connectives. -/
inductive Connective where
  | junction (j : Junction)
  | implies
  | iff
  deriving DecidableEq

/-- An atomic formula. -/
inductive Atom where
  | pred (name : String) (args : List Term)
  | relation (r : Relation) (lhs rhs : Term)
  deriving DecidableEq

/-- A formula. A quantifier binds one variable. -/
inductive Formula where
  | atom (a : Atom)
  | neg (arg : Formula)
  | binary (c : Connective) (lhs rhs : Formula)
  | quant (q : Quantifier) (name : String) (scope : Formula)
  deriving DecidableEq

def Quantifier.dual : Quantifier → Quantifier
  | .all => .ex
  | .ex => .all

def Junction.dual : Junction → Junction
  | .and => .or
  | .or => .and

@[simp] theorem Quantifier.dual_dual (q : Quantifier) : q.dual.dual = q := by cases q <;> rfl

@[simp] theorem Junction.dual_dual (j : Junction) : j.dual.dual = j := by cases j <;> rfl

/-- No junction is its own dual. -/
theorem Junction.dual_ne (j : Junction) : j.dual ≠ j := by cases j <;> decide

/-- A quantifier read under a negation, if there is one. -/
def Quantifier.under (negated : Bool) (q : Quantifier) : Quantifier :=
  if negated then q.dual else q

/-- A junction read under a negation, if there is one. -/
def Junction.under (negated : Bool) (j : Junction) : Junction :=
  if negated then j.dual else j

/-- Of two negations each undoes the other. -/
@[simp] theorem Quantifier.under_under (a b : Bool) (q : Quantifier) :
    (q.under a).under b = q.under (a != b) := by
  cases a <;> cases b <;> simp [under]

/-- Two negations on the way to a junction cancel out. -/
@[simp] theorem Junction.under_under (a b : Bool) (j : Junction) :
    (j.under a).under b = j.under (a != b) := by
  cases a <;> cases b <;> simp [under]

namespace Atom

def terms : Atom → List Term
  | .pred _ args => args
  | .relation _ lhs rhs => [lhs, rhs]

/-- All symbols and function names, from left to right. The predicate name is
not among them. -/
def names (a : Atom) : List String := a.terms.flatMap Term.names

/-- All foreign values in the terms, from left to right. -/
def foreignValues (a : Atom) : List Expression := a.terms.flatMap Term.foreignValues

/-- The predicate name, if the atom has one. -/
def predicate? : Atom → Option String
  | .pred name _ => some name
  | .relation _ _ _ => none

end Atom

namespace Formula

instance : Inhabited Formula := ⟨.atom (.pred "" [])⟩

/-- Two formulas joined by a junction. -/
@[match_pattern] abbrev junction (j : Junction) (f g : Formula) : Formula :=
  .binary (.junction j) f g

/-- The conjunction of two formulas. -/
@[match_pattern] abbrev and (f g : Formula) : Formula := junction .and f g

/-- The disjunction of two formulas. -/
@[match_pattern] abbrev or (f g : Formula) : Formula := junction .or f g

def isAtomic : Formula → Bool
  | .atom _ => true
  | _ => false

/-- An atomic formula or any negation. The argument of the negation is not
inspected; in negation normal form it is an atom. -/
def isLiteral : Formula → Bool
  | .atom _ => true
  | .neg _ => true
  | _ => false

/-- A formula with a connective at its top. -/
def isBoolean : Formula → Bool
  | .neg _ => true
  | .binary _ _ _ => true
  | _ => false

/-- A formula with a quantifier at its top. -/
def isQuantified : Formula → Bool
  | .quant _ _ _ => true
  | _ => false

/-- The greatest number of operators above an atom. -/
def depth : Formula → Nat
  | .atom _ => 0
  | .neg f => f.depth + 1
  | .binary _ f g => max f.depth g.depth + 1
  | .quant _ _ f => f.depth + 1

/-- The greatest number of operators and applications around a term. -/
def nesting : Formula → Nat
  | .atom a => Term.depthList a.terms
  | .neg f => f.nesting + 1
  | .binary _ f g => max f.nesting g.nesting + 1
  | .quant _ _ f => f.nesting + 1

def atoms : Formula → List Atom
  | .atom a => [a]
  | .neg f => f.atoms
  | .binary _ f g => f.atoms ++ g.atoms
  | .quant _ _ f => f.atoms

/-- The quantified variables, one for each quantifier, from the outside to the
inside and from left to right. -/
def boundNames : Formula → List String
  | .atom _ => []
  | .neg f => f.boundNames
  | .binary _ f g => f.boundNames ++ g.boundNames
  | .quant _ x f => x :: f.boundNames

/-- All names in use: quantified variables, symbols and function names, in
order and with repetitions. Predicate names are not among them. -/
def names : Formula → List String
  | .atom a => a.names
  | .neg f => f.names
  | .binary _ f g => f.names ++ g.names
  | .quant _ x f => x :: f.names

/-- The predicate names, in order and with repetitions. -/
def predicates (f : Formula) : List String := f.atoms.filterMap Atom.predicate?

/-- All foreign values in the terms, from left to right. -/
def foreignValues (f : Formula) : List Expression := f.atoms.flatMap Atom.foreignValues

/-- A formula whose quantifiers are nested over one scope, the last variable
innermost. -/
def quantAll (q : Quantifier) (names : List String) (scope : Formula) : Formula :=
  names.foldr (.quant q) scope

end Formula

end Clausal
