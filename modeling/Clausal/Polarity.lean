import Clausal.Formula.Basic

/-!
# Implications and negations

Two passes bring a formula to negation normal form. The first replaces
implications and equivalences by junctions and negations
(`Formula.withoutArrows`). The second moves negations inside until they stand at
atoms, turning junctions and quantifiers into their duals on the way
(`Formula.nnf`); it meets implications and equivalences as the first pass would
have left them, so it can be used alone.
-/

namespace Clausal.Formula

/-- A formula with its implications and equivalences replaced, from the inside
to the outside. An equivalence is the conjunction of two implications. -/
def withoutArrows : Formula → Formula
  | .atom a => .atom a
  | .neg f => .neg f.withoutArrows
  | .binary (.junction j) f g => junction j f.withoutArrows g.withoutArrows
  | .binary .implies f g => or (.neg f.withoutArrows) g.withoutArrows
  | .binary .iff f g =>
      and (or (.neg f.withoutArrows) g.withoutArrows) (or (.neg g.withoutArrows) f.withoutArrows)
  | .quant q x f => .quant q x f.withoutArrows

/-- The negation normal form of a formula, or of its negation. -/
def nnf (negated : Bool) : Formula → Formula
  | .atom a => if negated then .neg (.atom a) else .atom a
  | .neg f => f.nnf (!negated)
  | .binary (.junction j) f g => junction (j.under negated) (f.nnf negated) (g.nnf negated)
  | .binary .implies f g =>
      junction (Junction.or.under negated) (f.nnf (!negated)) (g.nnf negated)
  | .binary .iff f g =>
      junction (Junction.and.under negated)
        (junction (Junction.or.under negated) (f.nnf (!negated)) (g.nnf negated))
        (junction (Junction.or.under negated) (g.nnf (!negated)) (f.nnf negated))
  | .quant q x f => .quant (q.under negated) x (f.nnf negated)

/-- A formula has neither implications nor equivalences. -/
def ArrowFree : Formula → Prop
  | .atom _ => True
  | .neg f => f.ArrowFree
  | .binary (.junction _) f g => f.ArrowFree ∧ g.ArrowFree
  | .binary _ _ _ => False
  | .quant _ _ f => f.ArrowFree

/-- A formula has neither implications nor equivalences, and negations only at
atoms. -/
def IsNNF : Formula → Prop
  | .atom _ => True
  | .neg (.atom _) => True
  | .neg _ => False
  | .binary (.junction _) f g => f.IsNNF ∧ g.IsNNF
  | .binary _ _ _ => False
  | .quant _ _ f => f.IsNNF

/-- The result of the first pass has no implications and no equivalences. -/
theorem arrowFree_withoutArrows (f : Formula) : f.withoutArrows.ArrowFree := by
  induction f with
  | atom a => trivial
  | neg f ih => exact ih
  | binary c f g ihf ihg =>
      rcases c with j | _ | _ <;> simp [withoutArrows, ArrowFree, ihf, ihg]
  | quant q x f ih => exact ih

/-- The result of the second pass is in negation normal form. -/
theorem isNNF_nnf (f : Formula) (negated : Bool) : (f.nnf negated).IsNNF := by
  induction f generalizing negated with
  | atom a => cases negated <;> trivial
  | neg f ih => exact ih _
  | binary c f g ihf ihg =>
      rcases c with j | _ | _ <;> simp [nnf, IsNNF, ihf, ihg]
  | quant q x f ih => exact ih _

end Clausal.Formula
