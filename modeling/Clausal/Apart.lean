import Clausal.FreshName
import Clausal.Formula.Substitution

/-!
# Standardizing apart

A formula is standardized apart when every quantifier binds a variable of its
own. All names in use are collected first; then the formula is rebuilt from the
outside to the inside and from left to right, and every quantifier gets a fresh
variable, which takes the place of the old one in its scope. Free symbols,
function names and predicate names stay.
-/

namespace Clausal.Formula

/-- A formula with fresh bound variables under the renaming in force, and the
names in use afterwards. -/
def renameApart (env : Substitution) : Formula → (used : List String) → Formula × List String
  | .atom a, used => (.atom (a.subst env), used)
  | .neg f, used =>
      let (f, used) := f.renameApart env used
      (.neg f, used)
  | .binary c f g, used =>
      let (f, used) := f.renameApart env used
      let (g, used) := g.renameApart env used
      (.binary c f g, used)
  | .quant q x f, used =>
      let minted := mintVariable x used
      let (f, used) := f.renameApart ((x, .sym minted.name) :: env) minted.used
      (.quant q minted.name f, used)

/-- A formula with every quantifier binding a fresh variable of its own. -/
def apart (f : Formula) : Formula := (f.renameApart [] f.names).1

end Clausal.Formula
