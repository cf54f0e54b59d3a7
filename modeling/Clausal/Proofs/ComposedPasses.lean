import Clausal.Proofs.NegationForms
import Clausal.Proofs.Stages

/-!
# Passes one after the other

It makes no difference whether the second pass meets implications and equivalences or what the first
pass has made of them, under no polarity and at no depth (`Formula.pushes_withoutArrows`).

The second pass may be made again on its own result. Its polarities then compose: under equal ones
the two runs together are one that negates nothing, and under different ones they are one that
negates (`Formula.polarities_compose`). What is in negation normal form already stays as it is, and
nothing else does (`Formula.nnf_eq_self_iff`).
-/

namespace Clausal

/-- The second of the two passes that are computed for a formula could as well be made alone. -/
theorem NormalForms.Staged.nnf_eq {r : NormalForms} (staged : r.Staged) :
    r.nnf = r.given.nnf false := by
  rw [staged.nnf, staged.arrowless, Formula.nnf_withoutArrows]

namespace Formula

/-- The recursion of the second pass ends on a formula with the same result as on what the first
pass leaves of it, whatever the polarity. So the negation normal form that is computed in two passes
is the one that a single pass gives. -/
theorem pushes_withoutArrows (f : Formula) (negated : Bool) :
    f.nnf negated = f.withoutArrows.nnf negated ∧
      (∀ h, Pushes negated f h ↔ h = f.nnf negated) ∧
      (∀ h, Pushes negated f.withoutArrows h ↔ h = f.nnf negated) ∧
      (f.foreignValues = [] → ∃ r : NormalForms, r.given = f ∧
        (∀ threshold, ((NormalForms.ofFormula f).runWith threshold).1 = .ok r) ∧
        r.nnf = f.nnf false) := by
  have same : f.withoutArrows.nnf negated = f.nnf negated := f.nnf_withoutArrows negated
  have onTheWay (h : Formula) : Pushes negated f h ↔ h = f.nnf negated := pushes_iff f h negated
  have upFront (h : Formula) : Pushes negated f.withoutArrows h ↔ h = f.nnf negated := by
    rw [pushes_iff, same]
  refine ⟨same.symm, onTheWay, upFront, ?_⟩
  intro empty
  obtain ⟨r, rfl, staged⟩ := NormalForms.exists_staged f
  have computed := (staged.settles empty).outcome_runWith
  exact ⟨r, rfl, computed, staged.nnf_eq⟩

/-- Arrows of both kinds inside each other, below a quantifier and a negation. -/
theorem pushes_withoutArrows_nested :
    ∃ r : NormalForms,
      (∀ threshold, ((NormalForms.ofFormula
        (.neg (.quant .all "x" (.binary .implies
          (.binary .iff (.atom (.pred "P" [.sym "x"])) (.atom (.pred "Q" [])))
          (.atom (.pred "R" [.sym "x"])))))).runWith threshold).1 = .ok r) ∧
      r.nnf = .quant .ex "x" (.and
        (.and (.or (.neg (.atom (.pred "P" [.sym "x"]))) (.atom (.pred "Q" [])))
          (.or (.neg (.atom (.pred "Q" []))) (.atom (.pred "P" [.sym "x"]))))
        (.neg (.atom (.pred "R" [.sym "x"])))) := by
  have empty : foreignValues (.neg (.quant .all "x" (.binary .implies
      (.binary .iff (.atom (.pred "P" [.sym "x"])) (.atom (.pred "Q" [])))
      (.atom (.pred "R" [.sym "x"]))))) = [] := rfl
  obtain ⟨r, _, computed, nnf⟩ := (pushes_withoutArrows _ false).2.2.2 empty
  exact ⟨r, computed, nnf⟩

/-- A second run negates what the first one leaves, so the polarities cancel each other at every
junction, quantifier and atom. -/
theorem nnf_nnf (f : Formula) (a b : Bool) : (f.nnf a).nnf b = f.nnf (a != b) := by
  induction f generalizing a with
  | atom x => cases a <;> cases b <;> rfl
  | neg f ih => rw [nnf, nnf, ih, Bool.not_bne]
  | binary c f g ihf ihg =>
      rcases c with j | _ | _ <;>
        simp only [nnf, ihf, ihg, Junction.under_under, Bool.not_bne]
  | quant q x f ih => rw [nnf, nnf, nnf, ih, Quantifier.under_under]

/-- A formula is its own negation normal form exactly if it is in negation normal form. -/
theorem nnf_eq_self_iff (f : Formula) : f.nnf false = f ↔ f.IsNNF := by
  refine ⟨fun same => same ▸ f.isNNF_nnf false, fun normal => ?_⟩
  induction f, normal using IsNNF.induction with
  | atom a => rfl
  | literal a => rfl
  | junction j f g left right ihf ihg => exact congrArg₂ (junction j) ihf ihg
  | quant q x f scope ih => exact congrArg (quant q x) ih

/-- The second pass on its own result, under any two polarities, is one run under the polarity that
says whether they differ. So two negations give the negation normal form itself, and that form is
left as it is. -/
theorem polarities_compose (f : Formula) (a b : Bool) :
    (f.nnf a).nnf b = f.nnf (a != b) ∧
      (∀ h, (∃ g, Pushes a f g ∧ Pushes b g h) ↔ Pushes (a != b) f h) ∧
      (f.nnf true).nnf true = f.nnf false ∧
      (f.nnf false = f ↔ f.IsNNF) := by
  have composed : (f.nnf a).nnf b = f.nnf (a != b) := f.nnf_nnf a b
  refine ⟨composed, fun h => ⟨?_, ?_⟩, f.nnf_nnf true true, f.nnf_eq_self_iff⟩
  · rintro ⟨g, first, second⟩
    obtain rfl := (pushes_iff f g a).mp first
    rw [pushes_iff, composed] at second
    exact (pushes_iff f h (a != b)).mpr second
  · intro once
    have first : Pushes a f (f.nnf a) := (pushes_iff _ _ a).mpr rfl
    have found : h = (f.nnf a).nnf b := ((pushes_iff f h (a != b)).mp once).trans composed.symm
    exact ⟨f.nnf a, first, (pushes_iff _ _ b).mpr found⟩

end Formula

end Clausal
