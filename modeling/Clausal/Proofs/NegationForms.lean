import Clausal.Proofs.Semantics.Polarity

/-!
# Negation normal forms of arbitrary formulas

The second pass reads implications and equivalences as the first pass would have left them. It may
also hand them to the first pass when it meets them, and go on with what that makes of them
(`Formula.Pushes`). That is a larger formula, with the operands of an equivalence copied, but it has
no arrows any more. So both ways end with the same result (`Formula.pushes_iff`).

Whatever the formula and the polarity, the result is in negation normal form and means the formula
or its negation, with the atoms and quantifiers that the first pass leaves, in their order
(`Formula.nnf_spec`).
-/

universe u

namespace Clausal.Formula

/-- The second pass as a recursion that hands every implication and equivalence to the first pass
when it meets it, and goes on with the result. -/
inductive Pushes : (negated : Bool) → Formula → Formula → Prop where
  | atom (a : Atom) : Pushes false (.atom a) (.atom a)
  | negatedAtom (a : Atom) : Pushes true (.atom a) (.neg (.atom a))
  | neg {negated : Bool} {f f' : Formula} : Pushes (!negated) f f' → Pushes negated (.neg f) f'
  | junction {negated : Bool} {j : Junction} {f f' g g' : Formula} : Pushes negated f f' →
      Pushes negated g g' →
      Pushes negated (junction j f g) (junction (j.under negated) f' g')
  | arrow {negated : Bool} {c : Connective} {f g h : Formula} : (∀ j, c ≠ .junction j) →
      Pushes negated (binary c f g).withoutArrows h → Pushes negated (binary c f g) h
  | quant {negated : Bool} {q : Quantifier} {x : String} {f f' : Formula} :
      Pushes negated f f' → Pushes negated (.quant q x f) (.quant (q.under negated) x f')

/-- The second pass gives the same with the first pass before it as without. -/
theorem nnf_withoutArrows (f : Formula) (negated : Bool) :
    f.withoutArrows.nnf negated = f.nnf negated := by
  induction f generalizing negated with
  | atom a => rfl
  | neg f ih => exact ih _
  | binary c f g ihf ihg =>
      rcases c with j | _ | _ <;> simp only [withoutArrows, nnf, ihf, ihg]
  | quant q x f ih => rw [withoutArrows, nnf, nnf, ih]

/-- Without arrows the recursion follows the formula. -/
theorem pushes_of_arrowFree {f : Formula} (arrowFree : f.ArrowFree) (negated : Bool) :
    Pushes negated f (f.nnf negated) := by
  induction f generalizing negated with
  | atom a =>
      cases negated with
      | false => exact .atom a
      | true => exact .negatedAtom a
  | neg f ih => exact .neg (ih arrowFree _)
  | binary c f g ihf ihg =>
      rcases c with j | _ | _
      · exact .junction (ihf arrowFree.1 negated) (ihg arrowFree.2 negated)
      · exact arrowFree.elim
      · exact arrowFree.elim
  | quant q x f ih => exact .quant (ih arrowFree negated)

/-- If the recursion ends on what the first pass leaves of a formula, it ends on the formula. -/
theorem Pushes.of_withoutArrows {f h : Formula} {negated : Bool}
    (pushes : Pushes negated f.withoutArrows h) : Pushes negated f h := by
  induction f generalizing negated h with
  | atom a => exact pushes
  | neg f ih =>
      cases pushes with
      | neg inner => exact .neg (ih inner)
  | binary c f g ihf ihg =>
      rcases c with j | _ | _
      · cases pushes with
        | junction left right => exact .junction (ihf left) (ihg right)
        | arrow other _ => exact absurd rfl (other j)
      · exact .arrow (fun _ => Connective.noConfusion) pushes
      · exact .arrow (fun _ => Connective.noConfusion) pushes
  | quant q x f ih =>
      cases pushes with
      | quant scope => exact .quant (ih scope)

/-- The recursion ends on every formula under every polarity, with the result of the second pass and
no other. -/
theorem pushes_iff (f h : Formula) (negated : Bool) :
    Pushes negated f h ↔ h = f.nnf negated := by
  constructor
  · intro pushes
    induction pushes with
    | atom a => rfl
    | negatedAtom a => rfl
    | neg _ ih => exact ih
    | junction _ _ ihf ihg => rw [nnf, ihf, ihg]
    | arrow _ _ ih => rw [ih, nnf_withoutArrows]
    | quant _ ih => rw [nnf, ih]
  · rintro rfl
    -- What the first pass leaves may be larger than the formula, but it has no arrows.
    refine .of_withoutArrows ?_
    rw [← nnf_withoutArrows]
    exact pushes_of_arrowFree (arrowFree_withoutArrows f) negated

/-- The second pass ends on every formula, also if it replaces implications and equivalences only
where it meets them. The result means the formula or its negation, it has negations at atoms only
and no arrows, and its atoms and its bound variables are listed as in what the first pass leaves. -/
theorem nnf_spec (f : Formula) (negated : Bool) :
    (∀ h, Pushes negated f h ↔ h = f.nnf negated) ∧
      Equivalent.{u} (f.nnf negated) (if negated then .neg f else f) ∧
      (f.nnf negated).IsNNF ∧
      (f.nnf negated).atoms = f.withoutArrows.atoms ∧
      (f.nnf negated).boundNames = f.withoutArrows.boundNames := by
  refine ⟨fun h => pushes_iff f h negated, ?_, f.isNNF_nnf negated, f.atoms_nnf negated,
    f.boundNames_nnf negated⟩
  intro D M v
  have meaning := f.holds_nnf (M := M) (v := v) negated
  cases negated with
  | false => exact meaning.trans (iff_true_right rfl)
  | true => exact meaning.trans (iff_false_right Bool.noConfusion)

/-- The negation of an equivalence has each side once as it is and once negated. -/
example : (Formula.binary .iff (.atom (.pred "P" []))
      (.quant .ex "x" (.atom (.pred "Q" [.sym "x"])))).nnf true =
    .or (.and (.atom (.pred "P" [])) (.quant .all "x" (.neg (.atom (.pred "Q" [.sym "x"])))))
      (.and (.quant .ex "x" (.atom (.pred "Q" [.sym "x"]))) (.neg (.atom (.pred "P" [])))) := rfl

end Clausal.Formula
