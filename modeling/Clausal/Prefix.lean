import Clausal.Formula.Display

/-!
# Quantifier prefixes

A prefix is a list of quantifiers with their variables, from the outermost to
the innermost. Putting a prefix in front of a formula that has no quantifier at
its top and taking the leading quantifiers off are inverse to each other.
-/

namespace Clausal

/-- A quantifier with the variable it binds. -/
structure Binder where
  quantifier : Quantifier
  name : String
  deriving DecidableEq

/-- The leading quantifiers of a formula, from the outside to the inside. -/
abbrev Prefix := List Binder

namespace Prefix

/-- The universally quantified variables, from the outside to the inside. -/
def universals (p : Prefix) : List String :=
  p.filterMap fun b => if b.quantifier = .all then some b.name else none

def write (s : Style) (p : Prefix) : String :=
  String.intercalate s.betweenBinders (p.map fun b => s.binder b.quantifier b.name)

/-- A prefix with one character for every quantifier. -/
def unicode (p : Prefix) : String := p.write .unicode

def latex (p : Prefix) : String := p.write .latex

/-- A prefix in the applicative notation, as a list of pairs. -/
def applicative (p : Prefix) : String :=
  "Prefix(" ++
    String.intercalate ", " (p.map fun b => "(" ++ b.quantifier.label ++ ", " ++ b.name ++ ")") ++
    ")"

/-- A prenex formula for typesetting, given as its prefix and matrix. The matrix
is grouped unless it is a literal, and stands alone after an empty prefix. -/
def display (p : Prefix) (matrix : Formula) : String :=
  let body := Style.latex.group (!matrix.isLiteral) matrix.latex
  if p.isEmpty then body else p.latex ++ "\\; " ++ body

end Prefix

namespace Formula

/-- A formula with a prefix in front of it. -/
def quantify (f : Formula) (p : Prefix) : Formula :=
  p.foldr (fun b g => .quant b.quantifier b.name g) f

/-- The leading quantifiers of a formula. -/
def leading : Formula → Prefix
  | .quant q x f => ⟨q, x⟩ :: f.leading
  | _ => []

/-- What is left of a formula without its leading quantifiers. -/
def matrix : Formula → Formula
  | .quant _ _ f => f.matrix
  | f => f

@[simp] theorem quantify_nil (f : Formula) : f.quantify [] = f := rfl

@[simp] theorem quantify_cons (f : Formula) (b : Binder) (p : Prefix) :
    f.quantify (b :: p) = .quant b.quantifier b.name (f.quantify p) := rfl

end Formula

end Clausal
