import Clausal.Formula.Display
import Clausal.Layout
import Clausal.Text.Lines

/-!
# Formulas over several lines

The applicative notation of a formula can be laid out within a width. The
operands of an operator form a group, which is broken after the commas and
indented to the opening bracket. Atoms and variables are broken only where their
own text has a line end.
-/

namespace Clausal.Formula

open Layout (Step)

/-- Text in a group of its own, inside the group of the operand it is. -/
def leafSteps (text : String) : List Step :=
  [.opening 0, .opening 0] ++ ((Text.lines text).map Step.text).intersperse .lineEnd ++
    [.closing 0, .closing 0]

/-- Parts with commas between them after an opening mark, to which they are
indented. -/
def bracketSteps (opening closing : String) (parts : List (List Step)) : List Step :=
  [.opening 0, .text opening, .opening opening.length] ++
    [.text ",", .breakable].intercalate parts ++
    [.closing opening.length, .text closing, .closing 0]

/-- An operator applied to one operand or to two. -/
def applicationSteps (label : String) (operands : List (List Step)) : List Step :=
  bracketSteps (label ++ "(") ")" operands

/-- The applicative notation of a formula with its places for line ends. -/
def prettySteps : Formula → List Step
  | .atom a => leafSteps a.applicative
  | .neg f => applicationSteps "Not" [f.prettySteps]
  | .binary c f g => applicationSteps c.label [f.prettySteps, g.prettySteps]
  | .quant q x f => applicationSteps q.label [leafSteps x, f.prettySteps]

def pretty (width : Int) (f : Formula) : String := Layout.render width f.prettySteps

end Clausal.Formula
