import Clausal.Formula.Basic

/-!
# Notations for formulas

A formula is written in three notations. The applicative one writes every
operator as a function of its operands. The other two are infix notations that
differ only in their signs, so one writer serves both and each notation is a
record of signs (`Style`).

Operands are grouped unless they are literals, and the argument of a negation
is grouped unless it is atomic. Both infix notations can be read back.
-/

namespace Clausal

def Quantifier.label : Quantifier → String
  | .all => "All"
  | .ex => "Ex"

def Connective.label : Connective → String
  | .junction .and => "And"
  | .junction .or => "Or"
  | .implies => "Implies"
  | .iff => "Equivalent"

def Relation.label : Relation → String
  | .eq => "Eq"
  | .ne => "Ne"

def Relation.applicative : Relation → String
  | .eq => " == "
  | .ne => " != "

/-- The signs of an infix notation. The brackets around arguments also group
operands. -/
structure Style where
  marks : Term.Marks
  relation : Relation → String
  negation : String
  connective : Connective → String
  quantifier : Quantifier → String
  beforeVariable : String
  afterVariable : String
  betweenBinders : String

namespace Style

/-- The notation with one character for every sign. -/
def unicode : Style where
  marks := .spaced
  relation
    | .eq => " = "
    | .ne => " ≠ "
  negation := "¬"
  connective
    | .junction .and => " ∧ "
    | .junction .or => " ∨ "
    | .implies => " → "
    | .iff => " ↔ "
  quantifier
    | .all => "∀"
    | .ex => "∃"
  beforeVariable := ""
  afterVariable := ". "
  betweenBinders := " "

/-- The notation for typesetting, with a command for every sign. -/
def latex : Style where
  marks := ⟨"\\left(", ",\\,", "\\right)"⟩
  relation
    | .eq => "\\,=\\,"
    | .ne => "\\,\\ne\\,"
  negation := "\\neg "
  connective
    | .junction .and => "\\;\\land\\;"
    | .junction .or => "\\;\\lor\\;"
    | .implies => "\\;\\rightarrow\\;"
    | .iff => "\\;\\leftrightarrow\\;"
  quantifier
    | .all => "\\forall"
    | .ex => "\\exists"
  beforeVariable := "\\, "
  afterVariable := "\\, "
  betweenBinders := "\\, "

/-- A written formula between brackets, if it needs them. -/
def group (s : Style) (needed : Bool) (text : String) : String :=
  if needed then s.marks.opening ++ text ++ s.marks.closing else text

def binder (s : Style) (q : Quantifier) (name : String) : String :=
  s.quantifier q ++ s.beforeVariable ++ name

end Style

/-- An atom written with the given marks and signs of relations. A predicate
without arguments shows no brackets. -/
def Atom.write (m : Term.Marks) (relation : Relation → String) : Atom → String
  | .pred name [] => name
  | .pred name args => name ++ m.enclose (Term.writeList m args)
  | .relation r lhs rhs => lhs.write m ++ relation r ++ rhs.write m

/-- An atom in the applicative notation, which writes relations infix. -/
def Atom.applicative (a : Atom) : String := a.write .spaced Relation.applicative

namespace Formula

/-- A formula in an infix notation. -/
def write (s : Style) : Formula → String
  | .atom a => a.write s.marks s.relation
  | .neg f => s.negation ++ s.group (!f.isAtomic) (f.write s)
  | .binary c f g =>
      s.group (!f.isLiteral) (f.write s) ++ s.connective c ++ s.group (!g.isLiteral) (g.write s)
  | .quant q x f => s.binder q x ++ s.afterVariable ++ s.group (!f.isLiteral) (f.write s)

/-- A formula with one character for every sign. -/
def unicode (f : Formula) : String := f.write .unicode

def latex (f : Formula) : String := f.write .latex

/-- A formula for typesetting, marked as mathematics in display style. -/
def mathDisplay (f : Formula) : String := "$\\displaystyle " ++ f.latex ++ "$"

/-- A formula with every operator written as a function of its operands. -/
def applicative : Formula → String
  | .atom a => a.applicative
  | .neg f => "Not(" ++ f.applicative ++ ")"
  | .binary c f g => c.label ++ "(" ++ f.applicative ++ ", " ++ g.applicative ++ ")"
  | .quant q x f => q.label ++ "(" ++ x ++ ", " ++ f.applicative ++ ")"

end Formula

end Clausal
