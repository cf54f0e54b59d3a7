import Clausal.Polarity

/-!
# Conjunctive and disjunctive normal forms

A formula without quantifiers in negation normal form is brought into
conjunctive normal form by distributing disjunctions over conjunctions, and into
disjunctive normal form the other way round. Both are one construction with the
*outer* junction as a parameter; the *inner* junction is its dual.

The construction is purely structural: only the nesting of the junctions
changes. Literals are never dropped, merged or reordered.
-/

namespace Clausal.Formula

/-- A formula without quantifiers in negation normal form: atoms and negated
atoms under junctions. -/
def IsLiteralTree : Formula → Prop
  | .atom _ => True
  | .neg (.atom _) => True
  | .binary (.junction _) f g => f.IsLiteralTree ∧ g.IsLiteralTree
  | _ => False

/-- The inner combination of a formula in normal form with a right operand
without an outer junction at its top. -/
def distributeLeft (outer : Junction) (g : Formula) : Formula → Formula
  | .binary (.junction j) a b =>
      if j = outer then junction outer (distributeLeft outer g a) (distributeLeft outer g b)
      else junction outer.dual (junction j a b) g
  | f => junction outer.dual f g

/-- The inner combination of two formulas in normal form. An outer junction of
the right operand is split first, then one of the left operand. -/
def distribute (outer : Junction) (f : Formula) : Formula → Formula
  | .binary (.junction j) a b =>
      if j = outer then junction outer (distribute outer f a) (distribute outer f b)
      else distributeLeft outer (junction j a b) f
  | g => distributeLeft outer g f

/-- The normal form with the given outer junction. If a part of the formula is
neither a literal nor a junction, the leftmost such part is the error. -/
def normalForm (outer : Junction) : Formula → Except Formula Formula
  | .atom a => .ok (.atom a)
  | .neg (.atom a) => .ok (.neg (.atom a))
  | .binary (.junction j) f g => do
      let f ← normalForm outer f
      let g ← normalForm outer g
      .ok (if j = outer then junction outer f g else distribute outer f g)
  | f => .error f

def cnf (f : Formula) : Except Formula Formula := f.normalForm .and

def dnf (f : Formula) : Except Formula Formula := f.normalForm .or

end Clausal.Formula
