import Clausal.Proofs.Semantics.Polarity

/-!
# Formulas without implications and equivalences

Whether a formula has implications or equivalences shows in the list of its connectives
(`Formula.arrowFree_iff`). The first pass leaves none of them at any depth and changes neither the
meaning nor the set of quantified variables. It changes the formula itself exactly if there is
something to replace (`Formula.withoutArrows_spec`).
-/

universe u

namespace Clausal.Formula

/-- The binary connectives of a formula at all depths, each one before those below it, and from left
to right. -/
def connectives : Formula → List Connective
  | .atom _ => []
  | .neg f => f.connectives
  | .binary c f g => c :: (f.connectives ++ g.connectives)
  | .quant _ _ f => f.connectives

theorem arrowFree_iff {f : Formula} :
    f.ArrowFree ↔ .implies ∉ f.connectives ∧ .iff ∉ f.connectives := by
  induction f with
  | atom a => exact iff_of_true trivial ⟨List.not_mem_nil, List.not_mem_nil⟩
  | neg f ih => exact ih
  | binary c f g ihf ihg =>
      rcases c with j | _ | _
      · simp only [ArrowFree, connectives, ihf, ihg, List.mem_cons, List.mem_append, reduceCtorEq,
          false_or, not_or]
        exact and_and_and_comm
      · exact iff_of_false id fun absent => absent.1 List.mem_cons_self
      · exact iff_of_false id fun absent => absent.2 List.mem_cons_self
  | quant q x f ih => exact ih

/-- What has no arrows is left as it is, and what is left as it is has none. -/
theorem withoutArrows_eq_self_iff {f : Formula} : f.withoutArrows = f ↔ f.ArrowFree := by
  constructor
  · intro same
    exact same ▸ arrowFree_withoutArrows f
  · intro arrowFree
    induction f with
    | atom a => rfl
    | neg f ih => exact congrArg neg (ih arrowFree)
    | binary c f g ihf ihg =>
        rcases c with j | _ | _
        · exact congrArg₂ (junction j) (ihf arrowFree.1) (ihg arrowFree.2)
        · exact arrowFree.elim
        · exact arrowFree.elim
    | quant q x f ih => exact congrArg (quant q x) (ih arrowFree)

/-- The first pass keeps the truth value in every structure and the set of quantified variables. It
leaves neither an implication nor an equivalence, and the formula itself exactly if that has
neither. -/
theorem withoutArrows_spec (f : Formula) :
    Equivalent.{u} f.withoutArrows f ∧
      (.implies ∉ f.withoutArrows.connectives ∧ .iff ∉ f.withoutArrows.connectives) ∧
      (∀ x, x ∈ f.withoutArrows.boundNames ↔ x ∈ f.boundNames) ∧
      (f.withoutArrows = f ↔ .implies ∉ f.connectives ∧ .iff ∉ f.connectives) := by
  have meaning : Equivalent.{u} f.withoutArrows f := fun _ _ _ => f.holds_withoutArrows
  have complete := arrowFree_iff.mp (arrowFree_withoutArrows f)
  have bound (x : String) : x ∈ f.withoutArrows.boundNames ↔ x ∈ f.boundNames :=
    collects_boundNames.mem_withoutArrows f x
  exact ⟨meaning, complete, bound, withoutArrows_eq_self_iff.trans arrowFree_iff⟩

/-- Both sides of an equivalence are copied after their own arrows are replaced, and a quantifier is
copied with its side. -/
example : (Formula.binary .iff (.quant .ex "x" (.atom (.pred "P" [.sym "x"])))
      (.binary .implies (.atom (.pred "Q" [])) (.atom (.pred "R" [])))).withoutArrows =
    .and (.or (.neg (.quant .ex "x" (.atom (.pred "P" [.sym "x"]))))
        (.or (.neg (.atom (.pred "Q" []))) (.atom (.pred "R" []))))
      (.or (.neg (.or (.neg (.atom (.pred "Q" []))) (.atom (.pred "R" []))))
        (.quant .ex "x" (.atom (.pred "P" [.sym "x"])))) := rfl

end Clausal.Formula
