import Clausal.Clause.Basic
import Clausal.Formula.Pretty
import Clausal.Worksheet.Naming

/-!
# Writing values

Every value has a plain text. Formulas, prefixes and literals can be typeset,
alone, as a prefix with its matrix, or as numbered clauses, and every value can
be laid out within a width.
-/

namespace Clausal.Worksheet

/-- An argument that the function behind an attribute of formulas lacks when the
attribute is taken from a class. -/
def lacksFormula {α : Type} (function : String) : Except Fault α :=
  .error (.missing function ["self"])

def latexFunction : Operator → String
  | .predicate => "Pred.as_latex"
  | .relation _ => "BinaryRelation.as_latex"
  | _ => "Formula.as_latex"

namespace Value

open Layout (Step)

def binderText (s : Style) (item : Value) : Except Fault String := do
  let (o, x) ← item.pair
  match o with
  | .operator (.quantifier q) => do
      let name ← x.variableText
      .ok (s.binder q name)
  | o => o.refuse .noEntry

def prefixText (s : Style) (items : List Value) : Except Fault String := do
  let texts ← items.mapM (binderText s)
  .ok (String.intercalate s.betweenBinders texts)

def atomText : Value → Except Fault String
  | .formula (.atom a) => do
      requireNoForeign a.foreignValues
      .ok (Literal.atomText ⟨a, false⟩)
  | v => .error (.ruledOut v.className)

def literalText (sign : String) (atom negated : Value) : Except Fault String := do
  let negative ← negated.holds
  let text ← atom.atomText
  .ok (if negative then sign ++ text else text)

def plainText : Value → Except Fault String
  | .formula f => do
      let f ← f.withTerms
      .ok f.unicode
  | .binders items => prefixText .unicode items
  | .literal atom negated => literalText "~" atom negated
  | .scalar (.text s) => .ok s
  | v => v.shown

def latexAttribute : String := "as_latex"

def latex : Value → Except Fault String
  | .formula f => do
      let f ← f.withTerms
      .ok f.latex
  | .binders items => prefixText .latex items
  | .literal atom negated => literalText "\\lnot " atom negated
  | .operator o => lacksFormula (latexFunction o)
  | v => v.lacks latexAttribute

/-- A prefix and a matrix for typesetting. The matrix is grouped unless it is a
literal formula, and stands alone after an empty prefix. -/
def prenexDisplay (p matrix : Value) : Except Fault String := do
  let text ← matrix.latex
  let literal := match matrix with
    | .formula f => f.isLiteral
    | _ => false
  let body := Style.latex.group (!literal) text
  if ← p.holds then do
    let front ← p.latex
    .ok (front ++ "\\; " ++ body)
  else .ok body

def clausesDisplay (v : Value) : Except Fault String := do
  let clauses ← v.items
  let texts ← clauses.mapM fun clause => do
    let literals ← clause.items
    literals.mapM latex
  .ok (displayTexts texts)

/-- The greatest number of items of a list that are laid out. -/
def layoutLimit : Nat := 1000

/-- The parts of a list that are laid out. Dots stand for what is left out. -/
def shortened (parts : List (List Step)) : List (List Step) :=
  if layoutLimit < parts.length then parts.take layoutLimit ++ [[.text "..."]] else parts

/-- The steps of the items of a tuple. A tuple with one item has a comma at its
end. -/
def tupleSteps (parts : List (List Step)) : List Step :=
  match parts with
  | [part] => Formula.bracketSteps "(" ")" [part ++ [.text ","]]
  | parts => Formula.bracketSteps "(" ")" (shortened parts)

mutual

/-- A value with its places for line ends. -/
def prettySteps : Value → Except Fault (List Step)
  | .formula f => do
      let f ← f.withTerms
      .ok f.prettySteps
  | .list items => do
      let parts ← prettyItems items
      .ok (Formula.bracketSteps "[" "]" (shortened parts))
  | .tuple items => do
      let parts ← prettyItems items
      .ok (tupleSteps parts)
  | .record fields => do
      let parts ← prettyFields fields
      .ok (Formula.bracketSteps "\x7b" "\x7d" (shortened parts))
  | .operator o => .ok [.opening 0, .text o.path, .closing 0]
  | .expression (.leaf (.family path)) => .ok [.opening 0, .text path, .closing 0]
  | v => do
      let text ← v.shown
      .ok (Formula.leafSteps text)

/-- The items of a list with their places for line ends. -/
def prettyItems : List Value → Except Fault (List (List Step))
  | [] => .ok []
  | item :: items => do
      let part ← prettySteps item
      let parts ← prettyItems items
      .ok (part :: parts)

/-- The fields of a record with their places for line ends. -/
def prettyFields : List (String × Value) → Except Fault (List (List Step))
  | [] => .ok []
  | (key, v) :: fields => do
      let part ← prettySteps v
      let parts ← prettyFields fields
      .ok ((Formula.leafSteps (Text.quoted key) ++ [.text ": "] ++ part) :: parts)

end

/-- The greatest integer that is not greater than a number. -/
def floorOf? : Value → Option Int
  | .scalar (.floating x) => some x.toRat.floor
  | v => v.integer?

/-- A value in lines of a width. A width that is no number is looked at only when
there is a place for a line end. -/
def pretty (v width : Value) : Except Fault String := do
  let steps ← v.prettySteps
  match floorOf? width with
  | some width => .ok (Layout.render width steps)
  | none =>
      if steps.contains .breakable then
        .error (.notOrdered "<" width.kind (Scalar.int 0).kind)
      else .ok (Layout.render 0 steps)

end Value

end Clausal.Worksheet
