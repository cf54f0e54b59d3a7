import Clausal.Polarity
import Clausal.Prefix

/-!
# Prenex form

Quantifiers are pulled to the front in the order in which they are met, from the
outside to the inside and from left to right. The result is a prefix and a
matrix without quantifiers. A part that is not in negation normal form is
brought into it before its quantifiers are pulled.

Pulling a quantifier over another part of the formula is sound when its variable
does not occur there, which standardizing apart ensures.
-/

namespace Clausal.Formula

/-- Pulls the quantifiers of a formula. Negations of formulas that are not
atomic, implications and equivalences are left to `other`. -/
def pull (other : Formula → Prefix × Formula) : Formula → Prefix × Formula
  | .quant q x f =>
      let (p, matrix) := f.pull other
      (⟨q, x⟩ :: p, matrix)
  | .binary (.junction j) f g =>
      let (p, left) := f.pull other
      let (r, right) := g.pull other
      (p ++ r, junction j left right)
  | .atom a => ([], .atom a)
  | .neg (.atom a) => ([], .neg (.atom a))
  | f => other f

/-- Pulls the quantifiers of a formula in negation normal form. -/
def pullNormal (f : Formula) : Prefix × Formula := f.pull fun g => ([], g)

/-- The quantifiers of a formula and its matrix. -/
def prenex (f : Formula) : Prefix × Formula := f.pull fun g => (g.nnf false).pullNormal

end Clausal.Formula
