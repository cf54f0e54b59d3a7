import Clausal.Formula.Basic

/-!
# Substitution

A substitution replaces symbols by terms, all at once. Function names are left
alone. Under a quantifier the bound variable is exempt, and quantifiers are not
renamed: a term put into the scope of a quantifier should not hold its
variable.
-/

namespace Clausal

/-- Terms for symbols. Of two entries for one symbol the first counts. -/
abbrev Substitution := List (String × Term)

namespace Substitution

/-- The term put in for a symbol; a symbol without an entry stays. -/
def apply (s : Substitution) (name : String) : Term :=
  (s.lookup name).getD (.sym name)

/-- The substitution without its entries for one symbol. -/
def erase (s : Substitution) (name : String) : Substitution :=
  s.filter fun entry => entry.1 ≠ name

end Substitution

mutual

def Term.subst (s : Substitution) : Term → Term
  | .sym name => s.apply name
  | .app name args => .app name (Term.substList s args)
  | .foreign value => .foreign value

def Term.substList (s : Substitution) : List Term → List Term
  | [] => []
  | t :: ts => t.subst s :: Term.substList s ts

end

theorem Term.substList_eq_map (s : Substitution) (ts : List Term) :
    Term.substList s ts = ts.map (Term.subst s) := by
  induction ts with
  | nil => rfl
  | cons t ts ih => simp [Term.substList, ih]

def Atom.subst (s : Substitution) : Atom → Atom
  | .pred name args => .pred name (args.map (Term.subst s))
  | .relation r lhs rhs => .relation r (lhs.subst s) (rhs.subst s)

/-- A formula with the free occurrences of symbols replaced. -/
def Formula.subst (s : Substitution) : Formula → Formula
  | .atom a => .atom (a.subst s)
  | .neg f => .neg (f.subst s)
  | .binary c f g => .binary c (f.subst s) (g.subst s)
  | .quant q x f => .quant q x (f.subst (s.erase x))

end Clausal
